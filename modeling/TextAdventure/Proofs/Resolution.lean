import TextAdventure.Alias

/-!
# How input is resolved

Input is a phrase, or has the longest phrase in front of it replaced, or stays as it is
(`AliasTable.Resolves`). Which phrase is the longest, and which input begins with its command
already, is said without the search for it (`AliasTable.longest?_eq_some_iff`,
`AliasTable.isExpanded_iff`). When a table leaves its own commands alone, with or without words after
them, resolving input a second time changes nothing (`AliasTable.resolve_idempotent`).
-/

namespace TextAdventure

open Text (isBlank)

namespace AliasTable

variable {t : AliasTable} {a b : Alias} {l : List Alias} {raw raw' command : String}

/-! ## The longest phrase -/

theorem leads_iff : leads a raw = true ↔ a.phrase ≠ "" ∧ a.phrase.toList <+: raw.toList := by
  simp [leads]

/-- The alias has the longest phrase of the list and is the first that has it. -/
def FirstLongest (l : List Alias) (a : Alias) : Prop :=
  ∃ before after, l = before ++ a :: after ∧
    (∀ b ∈ before, b.phrase.length < a.phrase.length) ∧
      ∀ b ∈ after, b.phrase.length ≤ a.phrase.length

theorem not_firstLongest_nil : ¬FirstLongest [] a := by
  simp [FirstLongest]

theorem firstLongest_cons :
    FirstLongest (b :: l) a ↔
      b = a ∧ (∀ c ∈ l, c.phrase.length ≤ b.phrase.length) ∨
        b.phrase.length < a.phrase.length ∧ FirstLongest l a := by
  constructor
  · rintro ⟨before, after, hl, hbefore, hafter⟩
    cases before with
    | nil =>
      obtain ⟨rfl, rfl⟩ := List.cons.inj hl
      exact .inl ⟨rfl, hafter⟩
    | cons c before =>
      obtain ⟨rfl, rfl⟩ := List.cons.inj hl
      rw [List.forall_mem_cons] at hbefore
      exact .inr ⟨hbefore.1, before, after, rfl, hbefore.2, hafter⟩
  · rintro (⟨rfl, hafter⟩ | ⟨hlt, before, after, rfl, hbefore, hafter⟩)
    · exact ⟨[], l, rfl, fun _ hb => absurd hb List.not_mem_nil, hafter⟩
    · exact ⟨b :: before, after, rfl, List.forall_mem_cons.2 ⟨hlt, hbefore⟩, hafter⟩

theorem foldl_longer_some (l : List Alias) (b : Alias) :
    l.foldl longer (some b) = some a ↔ FirstLongest (b :: l) a := by
  induction l generalizing b with
  | nil => simp [firstLongest_cons, not_firstLongest_nil]
  | cons c l ih =>
    -- Of the first two only the one that the search keeps can be the first longest.
    rw [List.foldl_cons, longer]
    by_cases hlt : b.phrase.length < c.phrase.length
    · rw [if_pos hlt, ih, firstLongest_cons, firstLongest_cons, firstLongest_cons]
      grind
    · rw [if_neg hlt, ih, firstLongest_cons, firstLongest_cons, firstLongest_cons]
      grind

theorem foldl_longer_none (l : List Alias) : l.foldl longer none = some a ↔ FirstLongest l a := by
  cases l with
  | nil => simp [not_firstLongest_nil]
  | cons b l => exact foldl_longer_some l b

theorem isSome_foldl_longer (l : List Alias) (b : Alias) :
    (l.foldl longer (some b)).isSome = true := by
  induction l generalizing b with
  | nil => rfl
  | cons c l ih =>
    rw [List.foldl_cons, longer]
    split <;> exact ih _

/-- Of the aliases whose phrase is not empty and stands in front of the input, this is the first one
with the longest phrase. -/
def Foremost (t : AliasTable) (raw : String) (a : Alias) : Prop :=
  leads a raw = true ∧ ∃ before after, t.aliases = before ++ a :: after ∧
    (∀ b ∈ before, leads b raw = true → b.phrase.length < a.phrase.length) ∧
      ∀ b ∈ after, leads b raw = true → b.phrase.length ≤ a.phrase.length

theorem Foremost.mem (h : t.Foremost raw a) : a ∈ t.aliases := by
  obtain ⟨-, before, after, haliases, -⟩ := h
  rw [haliases]
  exact List.mem_append_right _ List.mem_cons_self

theorem longest?_eq_some_iff : t.longest? raw = some a ↔ t.Foremost raw a := by
  rw [longest?, foldl_longer_none]
  constructor
  · rintro ⟨before, after, hfilter, hbefore, hafter⟩
    obtain ⟨l₁, l₂, hl, rfl, hl₂⟩ := List.filter_eq_append_iff.1 hfilter
    obtain ⟨m₁, m₂, rfl, hm₁, hleads, rfl⟩ := List.filter_eq_cons_iff.1 hl₂
    refine ⟨hleads, l₁ ++ m₁, m₂, by rw [hl, List.append_assoc], fun b hb hlead => ?_,
      fun b hb hlead => hafter b (List.mem_filter.2 ⟨hb, hlead⟩)⟩
    rcases List.mem_append.1 hb with hb | hb
    · exact hbefore b (List.mem_filter.2 ⟨hb, hlead⟩)
    · exact absurd hlead (hm₁ b hb)
  · rintro ⟨hleads, before, after, haliases, hbefore, hafter⟩
    refine ⟨before.filter (leads · raw), after.filter (leads · raw), ?_, fun b hb => ?_,
      fun b hb => ?_⟩
    · rw [haliases, List.filter_append, List.filter_cons, if_pos hleads]
    · exact hbefore b (List.mem_filter.1 hb).1 (List.mem_filter.1 hb).2
    · exact hafter b (List.mem_filter.1 hb).1 (List.mem_filter.1 hb).2

theorem longest?_eq_none_iff : t.longest? raw = none ↔ ∀ a ∈ t.aliases, leads a raw = false := by
  have hnil : t.longest? raw = none ↔ t.aliases.filter (leads · raw) = [] := by
    rw [longest?]
    cases t.aliases.filter (leads · raw) with
    | nil => simp
    | cons b l =>
      have hsome := isSome_foldl_longer l b
      refine iff_of_false (fun hnone => ?_) (List.cons_ne_nil b l)
      rw [List.foldl_cons, longer] at hnone
      simp [hnone] at hsome
  rw [hnil, List.filter_eq_nil_iff]
  simp

/-- The search sees of the input only which phrases lead it. -/
theorem longest?_congr (h : ∀ a ∈ t.aliases, leads a raw = leads a raw') :
    t.longest? raw = t.longest? raw' := by
  rw [longest?, longest?, List.filter_congr h]

/-! ## Input that begins with a command -/

/-- The input is the command, or begins with it and goes on with a blank. -/
def BeginsWith (raw command : String) : Prop :=
  raw = command ∨ ∃ c rest, isBlank c = true ∧ raw.toList = command.toList ++ c :: rest

theorem isExpanded_iff : isExpanded raw command = true ↔ BeginsWith raw command := by
  rw [isExpanded, Bool.and_eq_true, List.isPrefixOf_iff_prefix, BeginsWith]
  constructor
  · rintro ⟨⟨rest, hraw⟩, hrest⟩
    rw [← hraw, ← String.length_toList, List.drop_left] at hrest
    cases rest with
    | nil =>
      rw [List.append_nil] at hraw
      exact .inl (String.toList_inj.1 hraw.symm)
    | cons c rest => exact .inr ⟨c, rest, hrest, hraw.symm⟩
  · rintro (rfl | ⟨c, rest, hc, hraw⟩)
    · exact ⟨List.prefix_rfl, by simp [← String.length_toList]⟩
    · rw [hraw, ← String.length_toList, List.drop_left]
      exact ⟨List.prefix_append _ _, hc⟩

theorem BeginsWith.isPrefix (h : BeginsWith raw command) : command.toList <+: raw.toList := by
  rcases h with rfl | ⟨c, rest, -, hraw⟩
  · exact List.prefix_rfl
  · exact ⟨c :: rest, hraw.symm⟩

/-- More words after the input do not matter. -/
theorem BeginsWith.append (h : BeginsWith raw command) (rest : String) :
    BeginsWith (raw ++ " " ++ rest) command := by
  rcases h with rfl | ⟨c, rest', hc, hraw⟩
  · exact .inr ⟨' ', rest.toList, Text.isBlank_space, by simp⟩
  · exact .inr ⟨c, rest' ++ ' ' :: rest.toList, hc, by simp [hraw]⟩

/-! ## Resolving -/

/-- What input comes to. -/
inductive Resolves (t : AliasTable) (raw : String) : String → Prop
  /-- The input is a phrase. -/
  | named {a : Alias} (hnamed : t.named? raw = some a) : Resolves t raw a.command
  /-- No phrase stands in front of it. -/
  | plain (hnamed : t.named? raw = none) (hlongest : t.longest? raw = none) : Resolves t raw raw
  /-- It begins with the command of the longest phrase in front of it. -/
  | expanded {a : Alias} (hnamed : t.named? raw = none) (hlongest : t.Foremost raw a)
      (hbegins : BeginsWith raw a.command) : Resolves t raw raw
  | expand {a : Alias} (hnamed : t.named? raw = none) (hlongest : t.Foremost raw a)
      (hbegins : ¬BeginsWith raw a.command) : Resolves t raw (expand a raw)

theorem resolves_resolve (t : AliasTable) (raw : String) : t.Resolves raw (t.resolve raw) := by
  unfold resolve
  cases hnamed : t.named? raw with
  | some a => exact .named hnamed
  | none =>
    cases hlongest : t.longest? raw with
    | none => exact .plain hnamed hlongest
    | some a =>
      have hforemost := longest?_eq_some_iff.1 hlongest
      by_cases hbegins : isExpanded raw a.command = true
      · simp only [hbegins, if_true]
        exact .expanded hnamed hforemost (isExpanded_iff.1 hbegins)
      · simp only [hbegins]
        exact .expand hnamed hforemost fun h => hbegins (isExpanded_iff.2 h)

theorem phrase_of_named? (h : t.named? raw = some a) : a ∈ t.aliases ∧ a.phrase = raw :=
  ⟨List.mem_of_find?_eq_some h, by simpa using List.find?_some h⟩

/-- The input in which the phrase is replaced is the command, or the command with text after it. -/
theorem expand_eq (a : Alias) (raw : String) :
    expand a raw = a.command ∨ ∃ rest, expand a raw = a.command ++ " " ++ rest := by
  unfold expand
  split
  · exact .inl rfl
  · exact .inr ⟨_, rfl⟩

/-! ## Resolving twice -/

/-- A command that the table leaves alone, whatever comes after it. -/
structure Settled (t : AliasTable) (command : String) : Prop where
  /-- Should the command be a phrase, the phrase stands for the command itself. -/
  named : ∀ a, t.named? command = some a → a.command = command
  /-- No phrase goes on after the command with a space. -/
  apart : ∀ a ∈ t.aliases, ¬(command ++ " ").toList <+: a.phrase.toList
  /-- Should a phrase stand in front of the command, the command begins with what it stands for. -/
  begins : ∀ a, t.Foremost command a → BeginsWith command a.command

theorem toList_prefix_append (s rest : String) : s.toList <+: (s ++ rest).toList := by
  rw [String.toList_append]
  exact List.prefix_append _ _

/-- A phrase that does not go on after the command with a space ends within the command. -/
theorem prefix_append_iff {phrase : String} (h : ¬(command ++ " ").toList <+: phrase.toList)
    (rest : String) :
    phrase.toList <+: (command ++ " " ++ rest).toList ↔ phrase.toList <+: command.toList := by
  have hspace := toList_prefix_append (command ++ " ") rest
  have hcommand := (toList_prefix_append command " ").trans hspace
  refine ⟨fun hphrase => ?_, fun hphrase => hphrase.trans hcommand⟩
  rcases Nat.lt_or_ge command.toList.length phrase.toList.length with hlt | hle
  · have hlength : (command ++ " ").toList.length ≤ phrase.toList.length := by
      simpa [Nat.succ_le_iff] using hlt
    exact absurd (List.prefix_of_prefix_length_le hspace hphrase hlength) h
  · exact List.prefix_of_prefix_length_le hphrase hcommand hle

namespace Settled

theorem eq_of_resolves (h : t.Settled command) (hr : t.Resolves command raw) : raw = command := by
  cases hr with
  | named hnamed => exact h.named _ hnamed
  | plain => rfl
  | expanded => rfl
  | expand _ hlongest hbegins => exact absurd (h.begins _ hlongest) hbegins

/-- With more words after the command the same phrase is the longest. -/
theorem foremost_of_append (h : t.Settled command) {rest : String}
    (ha : t.Foremost (command ++ " " ++ rest) a) : t.Foremost command a := by
  have hleads : ∀ b ∈ t.aliases, leads b (command ++ " " ++ rest) = leads b command := by
    intro b hb
    rw [Bool.eq_iff_iff, leads_iff, leads_iff, prefix_append_iff (h.apart b hb)]
  rw [← longest?_eq_some_iff] at ha ⊢
  rw [← ha, longest?_congr hleads]

theorem eq_of_resolves_append (h : t.Settled command) {rest : String}
    (hr : t.Resolves (command ++ " " ++ rest) raw) : raw = command ++ " " ++ rest := by
  cases hr with
  | named hnamed =>
    obtain ⟨ha, hphrase⟩ := phrase_of_named? hnamed
    exact absurd (hphrase ▸ toList_prefix_append (command ++ " ") rest) (h.apart _ ha)
  | plain => rfl
  | expanded => rfl
  | expand _ hlongest hbegins =>
    exact absurd ((h.begins _ (h.foremost_of_append hlongest)).append rest) hbegins

theorem resolve_self (h : t.Settled command) : t.resolve command = command :=
  h.eq_of_resolves (resolves_resolve t command)

theorem resolve_append (h : t.Settled command) (rest : String) :
    t.resolve (command ++ " " ++ rest) = command ++ " " ++ rest :=
  h.eq_of_resolves_append (resolves_resolve t _)

end Settled

/-- The table leaves alone every command that it puts for a phrase. -/
def SettledCommands (t : AliasTable) : Prop :=
  ∀ a ∈ t.aliases, t.Settled a.command

theorem SettledCommands.resolve_resolve (h : t.SettledCommands) (raw : String) :
    t.resolve (t.resolve raw) = t.resolve raw := by
  have hr := resolves_resolve t raw
  generalize hout : t.resolve raw = out at hr ⊢
  cases hr with
  | named hnamed => exact (h _ (phrase_of_named? hnamed).1).resolve_self
  | plain => exact hout
  | expanded => exact hout
  | @expand a _ hlongest _ =>
    have hsettled := h a hlongest.mem
    rcases expand_eq a raw with heq | ⟨rest, heq⟩
    · rw [heq]
      exact hsettled.resolve_self
    · rw [heq]
      exact hsettled.resolve_append rest

theorem settledCommands_standard : standard.SettledCommands := by
  have hnamed : ∀ a ∈ standard.aliases, standard.named? a.command = none := by decide +kernel
  have hapart : ∀ a ∈ standard.aliases, ∀ b ∈ standard.aliases,
      ¬(a.command ++ " ").toList <+: b.phrase.toList := by decide +kernel
  have hbegins : ∀ a ∈ standard.aliases,
      (standard.longest? a.command).all fun b => isExpanded a.command b.command := by decide +kernel
  intro a ha
  refine ⟨fun b hb => ?_, hapart a ha, fun b hb => ?_⟩
  · cases (hnamed a ha).symm.trans hb
  · have hall := hbegins a ha
    rw [longest?_eq_some_iff.2 hb, Option.all_some] at hall
    exact isExpanded_iff.1 hall

/-- If a table leaves its own commands alone, it leaves alone whatever it makes of any input. The
standard table is such a table. -/
theorem resolve_idempotent :
    (∀ t : AliasTable, t.SettledCommands → ∀ raw, t.resolve (t.resolve raw) = t.resolve raw) ∧
      standard.SettledCommands ∧
        ∀ raw, standard.resolve (standard.resolve raw) = standard.resolve raw :=
  ⟨fun _ h => h.resolve_resolve, settledCommands_standard, settledCommands_standard.resolve_resolve⟩

end AliasTable

end TextAdventure
