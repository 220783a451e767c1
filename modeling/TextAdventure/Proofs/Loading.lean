import TextAdventure.Alias.Load
import TextAdventure.World.Load
import TextAdventure.Proofs.Consistency
import TextAdventure.Proofs.Presentation
import TextAdventure.Proofs.Rewriting
import TextAdventure.Proofs.Toml.Lines

/-!
# Loading what was written

A world that is loaded is made by a document (`World.exists_document_of_load`), and a sound world is
loaded from every way to write its document (`World.Sound.ofText_document`).

Aliases are written as three lines each, and the text is read back as just these aliases, however
their strings are spelled and whatever ends the lines (`AliasTable.read_of_describedBy`). The array of
tables grows at its end while the lines are read, by one table with every alias
(`Alias.foldlM_statements`). No table that is loaded has an empty phrase, so that empty input stays
empty (`AliasTable.aliases_read_back_from_text`).
-/

namespace TextAdventure

/-! ## Worlds -/

namespace World

variable {text : String} {w : World}

/-- What is known of the worlds of documents is known of the worlds of files. -/
theorem exists_document_of_load {path : String} {reading : Reading}
    (h : load path reading = .ok w) : ∃ d : Document, d.Proper ∧ ofDocument d = .ok w := by
  obtain ⟨text, -, htext⟩ := load_eq_ok_iff.1 h
  obtain ⟨d, hparse, hd⟩ := ofText_eq_ok_iff.1 htext
  exact ⟨d, Document.lawful_format.of_parse hparse, hd⟩

theorem ofText_of_presentedBy {d : Document} (hproper : d.Proper) (h : d.PresentedBy text)
    (hd : ofDocument d = .ok w) : ofText text = .ok w := by
  obtain ⟨ts, hshown, hlayout⟩ := h
  have read := (Document.accepts_format d hproper ts hshown).parse_eq hlayout
  exact ofText_eq_ok_iff.2 ⟨d, read, hd⟩

/-- A sound world is read back from its document, however that is written. -/
theorem Sound.ofText_document (h : w.Sound) (hproper : w.document.Proper)
    (htext : w.document.PresentedBy text) : ofText text = .ok w :=
  ofText_of_presentedBy hproper htext h.ofDocument_document

/-- A sound world that is saved is loaded again. -/
theorem Sound.load_print (h : w.Sound) (hproper : w.document.Proper) (path : String) :
    load path (.ok (Document.format.print w.document).toUTF8) = .ok w :=
  load_eq_ok_iff.2
    ⟨_, textOf_toUTF8 _, h.ofText_document hproper (Document.presentedBy_print w.document)⟩

end World

/-! ## The lines of an alias -/

namespace Alias

open Toml (BareName Document Entries HasLines ReadAs Statement StringSpelled Value)

/-- The alias is written on these lines. -/
inductive WrittenAs (a : Alias) : List (List Char) → Prop
  | lines {phrase command : List Char} (hphrase : StringSpelled a.phrase phrase)
    (hcommand : StringSpelled a.command command) :
    WrittenAs a
      ["[[alias]]".toList, "phrase = ".toList ++ phrase, "command = ".toList ++ command]

/-- The lines of an alias with its strings in the usual way. -/
def lines (a : Alias) : List (List Char) :=
  ["[[alias]]".toList, "phrase = ".toList ++ Toml.basic a.phrase,
    "command = ".toList ++ Toml.basic a.command]

theorem writtenAs_lines (a : Alias) : a.WrittenAs a.lines :=
  .lines (Toml.stringSpelled_basic a.phrase) (Toml.stringSpelled_basic a.command)

/-- What the lines of an alias say. -/
def statements (a : Alias) : List Statement :=
  [.arrayHeader ⟨[], "alias"⟩, .pair ⟨[], "phrase"⟩ (.string a.phrase),
    .pair ⟨[], "command"⟩ (.string a.command)]

/-- The table of an alias. -/
def entries (a : Alias) : Entries :=
  [("phrase", .string a.phrase), ("command", .string a.command)]

theorem ofEntries?_entries (a : Alias) : ofEntries? a.entries = some a := rfl

theorem WrittenAs.readAs {a : Alias} {lines : List (List Char)} (h : a.WrittenAs lines) :
    List.Forall₂ ReadAs lines a.statements := by
  obtain ⟨hphrase, hcommand⟩ := h
  have header : BareName "alias" := ⟨by decide, by decide⟩
  have phrase : BareName "phrase" := ⟨by decide, by decide⟩
  have command : BareName "command" := ⟨by decide, by decide⟩
  exact .cons (Toml.readAs_arrayHeader header) (.cons (Toml.readAs_pair phrase hphrase)
    (.cons (Toml.readAs_pair command hcommand) .nil))

/-! ## The document that the lines build -/

/-- The document of the aliases, the last of which comes first. -/
def rootOf : List Alias → Entries
  | [] => []
  | a :: earlier => [("alias", .tables (earlier.map entries) a.entries)]

theorem openElement_rootOf (earlier : List Alias) :
    (rootOf earlier).openElement "alias" = some [("alias", .tables (earlier.map entries) [])] := by
  cases earlier <;> rfl

/-- A key belongs to the last table of the array. -/
theorem step_pair (earlier : List Entries) (last : Entries) (name : String) (value : Value) :
    Document.step ⟨[("alias", .tables earlier last)], ["alias"]⟩ (.pair ⟨[], name⟩ value) =
      (last.add name value).map fun last => ⟨[("alias", .tables earlier last)], ["alias"]⟩ := by
  simp only [Document.step, Entries.within, Entries.alter, Entries.addPair, if_true, true_or]
  cases last.add name value <;> rfl

/-- The lines of an alias put its table behind those that were there before. -/
theorem foldlM_statements (earlier : List Alias) (current : List String) (a : Alias) :
    a.statements.foldlM Document.step ⟨rootOf earlier, current⟩ =
      some ⟨rootOf (a :: earlier), ["alias"]⟩ := by
  have opened : Document.step ⟨rootOf earlier, current⟩ (.arrayHeader ⟨[], "alias"⟩) =
      some ⟨[("alias", .tables (earlier.map entries) [])], ["alias"]⟩ := by
    simp only [Document.step, Entries.within, openElement_rootOf]
    rfl
  have phrase : Entries.add "phrase" (.string a.phrase) [] =
      some [("phrase", .string a.phrase)] := rfl
  have command : Entries.add "command" (.string a.command) [("phrase", .string a.phrase)] =
      some a.entries := rfl
  simp only [statements, List.foldlM_cons, List.foldlM_nil, opened, step_pair, phrase, command,
    Option.bind_eq_bind, Option.bind_some, Option.map_some]
  rfl

theorem build_statements (aliases : List Alias) :
    Document.build (aliases.flatMap statements) = some (rootOf aliases.reverse) := by
  have run : ∃ current, (aliases.flatMap statements).foldlM Document.step Document.empty =
      some ⟨rootOf aliases.reverse, current⟩ := by
    -- The array grows at its end, so the last alias is the step.
    induction aliases using List.reverseRecOn with
    | nil => exact ⟨[], rfl⟩
    | append_singleton earlier a ih =>
      obtain ⟨current, ih⟩ := ih
      refine ⟨["alias"], ?_⟩
      rw [List.flatMap_append, List.flatMap_singleton, List.foldlM_append, ih,
        List.reverse_append, List.reverse_singleton, List.singleton_append]
      exact foldlM_statements earlier.reverse current a
  obtain ⟨current, run⟩ := run
  rw [Document.build, run, Option.map_some]

end Alias

namespace AliasTable

open Toml (HasLines)

/-- The text has the lines of these aliases, in order. -/
def DescribedBy (aliases : List Alias) (text : String) : Prop :=
  ∃ blocks, List.Forall₂ Alias.WrittenAs aliases blocks ∧ HasLines blocks.flatten text.toList

/-- The text of the aliases with their strings in the usual way. -/
def written (aliases : List Alias) : String :=
  String.ofList (Toml.unlines (aliases.flatMap Alias.lines))

theorem describedBy_written (aliases : List Alias) : DescribedBy aliases (written aliases) := by
  refine ⟨aliases.map Alias.lines, ?_, ?_⟩
  · rw [List.forall₂_map_right_iff]
    exact List.forall₂_same.2 fun a _ => a.writtenAs_lines
  · rw [written, String.toList_ofList, ← List.flatMap_def]
    exact Toml.hasLines_unlines _

/-! ## The table that is read -/

theorem ofEntries?_rootOf (aliases : List Alias) :
    ofEntries? (Alias.rootOf aliases.reverse) = some aliases := by
  have each : (aliases.map Alias.entries).mapM Alias.ofEntries? = some aliases := by
    rw [List.mapM_map, Function.comp_def]
    simp only [Alias.ofEntries?_entries]
    exact List.mapM_pure.trans (congrArg some aliases.map_id)
  cases h : aliases.reverse with
  | nil =>
    rw [List.reverse_eq_nil_iff] at h
    rw [h]
    rfl
  | cons last earlier =>
    have order : (earlier.map Alias.entries).reverse ++ [last.entries] =
        aliases.map Alias.entries := by
      rw [← List.reverse_reverse aliases, h]
      simp
    rw [← each, ← order]
    rfl

theorem read_of_describedBy {aliases : List Alias} {text : String}
    (h : DescribedBy aliases text) : (Toml.parse? text).bind ofEntries? = some aliases := by
  obtain ⟨blocks, hblocks, hlines⟩ := h
  have read : List.Forall₂ Toml.ReadAs blocks.flatten (aliases.flatMap Alias.statements) := by
    clear hlines
    induction hblocks with
    | nil => exact .nil
    | cons hwritten _ ih => exact List.rel_append hwritten.readAs ih
  rw [hlines.parse?_eq read, Alias.build_statements, Option.bind_some, ofEntries?_rootOf]

theorem emptyPhrase?_eq_none_iff {aliases : List Alias} :
    emptyPhrase? aliases = none ↔ ∀ a ∈ aliases, a.phrase ≠ "" := by
  simp [emptyPhrase?, List.findIdx?_eq_none_iff]

theorem emptyPhrase?_append_cons {before after : List Alias} {a : Alias}
    (hbefore : ∀ b ∈ before, b.phrase ≠ "") (ha : a.phrase = "") :
    emptyPhrase? (before ++ a :: after) = some before.length := by
  have none := emptyPhrase?_eq_none_iff.2 hbefore
  unfold emptyPhrase? at none ⊢
  rw [List.findIdx?_append, none, List.findIdx?_cons, ha]
  simp

theorem exists_first_empty {aliases : List Alias} (h : ∃ a ∈ aliases, a.phrase = "") :
    ∃ before a after, aliases = before ++ a :: after ∧ (∀ b ∈ before, b.phrase ≠ "") ∧
      a.phrase = "" := by
  obtain ⟨a, hfirst⟩ : ∃ a, aliases.find? (·.phrase = "") = some a := by
    rw [← Option.isSome_iff_exists, List.find?_isSome]
    simpa using h
  obtain ⟨ha, before, after, rfl, hbefore⟩ := List.find?_eq_some_iff_append.1 hfirst
  exact ⟨before, a, after, rfl, by simpa using hbefore, by simpa using ha⟩

theorem ofText_eq_ok_iff {text : String} {t : AliasTable} :
    ofText text = .ok t ↔
      (Toml.parse? text).bind ofEntries? = some t.aliases ∧ ∀ a ∈ t.aliases, a.phrase ≠ "" := by
  rw [← emptyPhrase?_eq_none_iff, ofText]
  cases (Toml.parse? text).bind ofEntries? with
  | none => simp
  | some aliases =>
    simp only [Option.some.injEq]
    constructor
    · intro h
      split at h
      · cases h
      · cases h
        exact ⟨rfl, ‹_›⟩
    · rintro ⟨rfl, hnone⟩
      rw [hnone]

/-- Aliases that are saved are loaded again. -/
theorem load_written {aliases : List Alias} (h : ∀ a ∈ aliases, a.phrase ≠ "") (path : String) :
    load path (.ok (written aliases).toUTF8) = .ok ⟨aliases⟩ := by
  rw [load, textOf_toUTF8]
  exact ofText_eq_ok_iff.2 ⟨read_of_describedBy (describedBy_written aliases), h⟩

/-- Empty input begins with no phrase that is not empty. -/
theorem resolve_empty {t : AliasTable} (h : ∀ a ∈ t.aliases, a.phrase ≠ "") : t.resolve "" = "" := by
  have unnamed : t.named? "" = none := named?_eq_none_iff.2 h
  have unled : t.longest? "" = none := by
    refine longest?_eq_none_iff.2 fun a ha => ?_
    rw [Bool.eq_false_iff, ne_eq, leads_iff]
    rintro ⟨hne, hlead⟩
    exact hne (String.toList_eq_nil_iff.1 (List.prefix_nil.1 hlead))
  rw [resolve, unnamed, unled]

/-- Aliases can be written as text, whatever their strings are. Read back, they are the same in the
same order if no phrase is empty; else the first empty phrase is reported. So no table from a text
has an empty phrase, and empty input stays empty. -/
theorem aliases_read_back_from_text :
    (∀ {aliases : List Alias} {text : String}, DescribedBy aliases text →
      ((∀ a ∈ aliases, a.phrase ≠ "") → ofText text = .ok ⟨aliases⟩) ∧
      ((∃ a ∈ aliases, a.phrase = "") → ∃ before a after, aliases = before ++ a :: after ∧
        (∀ b ∈ before, b.phrase ≠ "") ∧ a.phrase = "" ∧
        ofText text = .error (.emptyPhrase before.length))) ∧
    (∀ aliases, DescribedBy aliases (written aliases)) ∧
    ∀ {text : String} {t : AliasTable}, ofText text = .ok t →
      (∀ a ∈ t.aliases, a.phrase ≠ "") ∧ t.resolve "" = "" := by
  refine ⟨?_, describedBy_written, ?_⟩
  · intro aliases text h
    have read := read_of_describedBy h
    refine ⟨fun hphrases => ofText_eq_ok_iff.2 ⟨read, hphrases⟩, fun hempty => ?_⟩
    obtain ⟨before, a, after, rfl, hbefore, ha⟩ := exists_first_empty hempty
    refine ⟨before, a, after, rfl, hbefore, ha, ?_⟩
    simp only [ofText, read, emptyPhrase?_append_cons hbefore ha]
  · intro text t h
    obtain ⟨-, hphrases⟩ := ofText_eq_ok_iff.1 h
    exact ⟨hphrases, resolve_empty hphrases⟩

/-- An escape that need not be there, the line end of another system and none at the end; and an
empty phrase in front of another. -/
theorem escaped_alias_read_back :
    ofText "[[alias]]\r\nphrase = \"\\u0075\"\ncommand = \"say \\\"up\\\"\"" =
      .ok ⟨[⟨"u", "say \"up\""⟩]⟩ ∧
    resolve ⟨[⟨"u", "say \"up\""⟩]⟩ "" = "" ∧
    ofText (written [⟨"n", "go north"⟩, ⟨"", "look"⟩, ⟨"", ""⟩]) = .error (.emptyPhrase 1) := by
  obtain ⟨hread, hdescribed, hloaded⟩ := aliases_read_back_from_text
  have u : Toml.CharSpelled 'u' ['\\', 'u', '0', '0', '7', '5'] := by
    refine .four ⟨[0, 0, 7, 5], ?_, by decide⟩ rfl
    exact .cons (by decide) (.cons (by decide) (.cons (by decide) (.cons (by decide) .nil)))
  have escaped := @Toml.StringSpelled.quoted "u" _ (.cons u .nil)
  have described : DescribedBy [⟨"u", "say \"up\""⟩]
      "[[alias]]\r\nphrase = \"\\u0075\"\ncommand = \"say \\\"up\\\"\"" :=
    ⟨_, .cons (.lines escaped (Toml.stringSpelled_basic "say \"up\"")) .nil,
      .cons (.inr rfl) (.cons (.inl rfl) (.last _))⟩
  have ok := (hread described).1 (by decide)
  refine ⟨ok, (hloaded ok).2, ?_⟩
  obtain ⟨before, a, after, haliases, hbefore, ha, hempty⟩ :=
    (hread (hdescribed [⟨"n", "go north"⟩, ⟨"", "look"⟩, ⟨"", ""⟩])).2 ⟨⟨"", "look"⟩, by decide⟩
  match before with
  | [] =>
    obtain ⟨rfl, -⟩ := List.cons.inj haliases
    exact absurd ha (by decide)
  | [_] => exact hempty
  | _ :: _ :: _ =>
    obtain ⟨rfl, -⟩ := List.cons.inj (List.cons.inj haliases).2
    exact absurd rfl (hbefore ⟨"", "look"⟩ (by simp))

end AliasTable

end TextAdventure
