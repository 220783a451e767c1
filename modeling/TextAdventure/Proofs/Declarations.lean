import Mathlib.Data.List.Infix
import TextAdventure.Proofs.Rewriting

/-!
# Which declarations count

What input comes to depends on a table only through the commands that it declares for the phrases in
front of the input (`AliasTable.commandFor?`, `AliasTable.Bears`): two tables that declare the same
for these phrases resolve the input to the same. So the order of aliases of different phrases does
not matter, nor do aliases whose phrase has been declared before or is not in front of the input
(`AliasTable.resolve_told_by_first_declarations`).
-/

namespace TextAdventure

namespace AliasTable

variable {t u : AliasTable} {a b : Alias} {l l' before after : List Alias} {raw phrase : String}

/-! ## Declared commands -/

/-- The command declared for a phrase: that of the first alias with this phrase. -/
def commandFor? (t : AliasTable) (phrase : String) : Option String :=
  (t.named? phrase).map Alias.command

/-- Of a phrase there is nothing to know but its command. -/
theorem named?_of_commandFor? (h : t.commandFor? phrase = u.commandFor? phrase) :
    t.named? phrase = u.named? phrase := by
  cases ht : t.named? phrase with
  | none =>
    rw [commandFor?, ht, commandFor?] at h
    exact (Option.map_eq_none_iff.1 h.symm).symm
  | some a =>
    rw [commandFor?, ht, commandFor?] at h
    obtain ⟨b, hb, hcommand⟩ := Option.map_eq_some_iff.1 h.symm
    have hphrase : a.phrase = b.phrase :=
      (phrase_of_named? ht).2.trans (phrase_of_named? hb).2.symm
    have heq : a = b := by
      cases a
      cases b
      cases hphrase
      cases hcommand
      rfl
    rw [hb, heq]

/-! ## The longest phrase by lookup -/

theorem leads_congr (h : a.phrase = b.phrase) (raw : String) : leads a raw = leads b raw := by
  rw [leads, leads, h]

/-- Two phrases of one length in front of the same input are the same phrase. -/
theorem phrase_eq_of_leads (ha : leads a raw = true) (hb : leads b raw = true)
    (hlength : a.phrase.length = b.phrase.length) : a.phrase = b.phrase := by
  have hsame : a.phrase.toList.length = b.phrase.toList.length := by
    rw [String.length_toList, String.length_toList, hlength]
  have hwithin := List.prefix_of_prefix_length_le (leads_iff.1 ha).2 (leads_iff.1 hb).2
    (Nat.le_of_eq hsame)
  exact String.toList_inj.1 (hwithin.eq_of_length hsame)

/-- The foremost alias is the one that is found under the longest phrase in front of the input. -/
theorem foremost_iff_named? :
    t.Foremost raw a ↔ leads a raw = true ∧ t.named? a.phrase = some a ∧
      ∀ b ∈ t.aliases, leads b raw = true → b.phrase.length ≤ a.phrase.length := by
  constructor
  · rintro ⟨hleads, before, after, haliases, hbefore, hafter⟩
    refine ⟨hleads, named?_eq_some haliases rfl fun b hb heq => ?_, fun b hb hlead => ?_⟩
    · have hlt := hbefore b hb ((leads_congr heq raw).trans hleads)
      rw [heq] at hlt
      exact Nat.lt_irrefl _ hlt
    · rw [haliases, List.mem_append, List.mem_cons] at hb
      rcases hb with hb | rfl | hb
      · exact Nat.le_of_lt (hbefore b hb hlead)
      · exact Nat.le_refl _
      · exact hafter b hb hlead
  · rintro ⟨hleads, hnamed, hlongest⟩
    obtain ⟨-, before, after, haliases, hbefore⟩ := List.find?_eq_some_iff_append.1 hnamed
    refine ⟨hleads, before, after, haliases, fun b hb hlead => ?_, fun b hb hlead => ?_⟩
    · have hne : b.phrase ≠ a.phrase := by simpa using hbefore b hb
      have hle := hlongest b (by simp [haliases, hb]) hlead
      exact Nat.lt_of_le_of_ne hle fun hlength => hne (phrase_eq_of_leads hlead hleads hlength)
    · exact hlongest b (by simp [haliases, hb]) hlead

/-! ## Tables that agree on what stands in front of the input -/

/-- The phrase stands in front of the input; the empty phrase bears on empty input only. -/
def Bears (phrase raw : String) : Prop :=
  phrase.toList <+: raw.toList ∧ (phrase = "" → raw = "")

theorem bears_self (raw : String) : Bears raw raw :=
  ⟨List.prefix_rfl, id⟩

theorem bears_of_leads (h : leads a raw = true) : Bears a.phrase raw :=
  ⟨(leads_iff.1 h).2, fun hempty => absurd hempty (leads_iff.1 h).1⟩

/-- The tables declare the same for the phrases that bear on the input. -/
def Agree (t u : AliasTable) (raw : String) : Prop :=
  ∀ phrase, Bears phrase raw → t.commandFor? phrase = u.commandFor? phrase

theorem agree_iff_inits :
    t.Agree u raw ↔ ∀ cs ∈ raw.toList.inits, (cs = [] → raw = "") →
      t.commandFor? (String.ofList cs) = u.commandFor? (String.ofList cs) := by
  constructor
  · intro h cs hcs hempty
    rw [List.mem_inits] at hcs
    exact h _ ⟨by rwa [String.toList_ofList], fun hnil => hempty (String.ofList_eq_empty_iff.1 hnil)⟩
  · intro h phrase hbears
    have hcs := h phrase.toList ((List.mem_inits _ _).2 hbears.1) fun hnil =>
      hbears.2 (String.toList_eq_nil_iff.1 hnil)
    rwa [String.ofList_toList] at hcs

instance (t u : AliasTable) (raw : String) : Decidable (t.Agree u raw) :=
  decidable_of_iff _ agree_iff_inits.symm

namespace Agree

theorem symm (h : t.Agree u raw) : u.Agree t raw :=
  fun phrase hbears => (h phrase hbears).symm

theorem named? (h : t.Agree u raw) (hbears : Bears phrase raw) :
    t.named? phrase = u.named? phrase :=
  named?_of_commandFor? (h phrase hbears)

theorem foremost (h : t.Agree u raw) (ha : t.Foremost raw a) : u.Foremost raw a := by
  obtain ⟨hleads, hnamed, hlongest⟩ := foremost_iff_named?.1 ha
  refine foremost_iff_named?.2 ⟨hleads, ?_, fun b hb hlead => ?_⟩
  · rw [← h.named? (bears_of_leads hleads), hnamed]
  · -- Some alias of the other table has the phrase of `b`.
    cases hsame : t.named? b.phrase with
    | none =>
      rw [h.named? (bears_of_leads hlead), named?_eq_none_iff] at hsame
      exact absurd rfl (hsame b hb)
    | some c =>
      obtain ⟨hc, hphrase⟩ := phrase_of_named? hsame
      rw [← hphrase]
      exact hlongest c hc ((leads_congr hphrase raw).trans hlead)

theorem longest?_eq (h : t.Agree u raw) : t.longest? raw = u.longest? raw := by
  refine Option.ext fun a => ?_
  rw [longest?_eq_some_iff, longest?_eq_some_iff]
  exact ⟨h.foremost, h.symm.foremost⟩

theorem resolve_eq (h : t.Agree u raw) : t.resolve raw = u.resolve raw := by
  rw [resolve, resolve, h.named? (bears_self raw), h.longest?_eq]

end Agree

/-! ## Reordering and inserting aliases -/

/-- The same aliases in another order, in which those of one phrase stand as they did. -/
inductive Reordered : List Alias → List Alias → Prop
  | refl (l : List Alias) : Reordered l l
  | swap {a b : Alias} (h : a.phrase ≠ b.phrase) (l : List Alias) :
      Reordered (a :: b :: l) (b :: a :: l)
  | cons (a : Alias) {l l' : List Alias} (h : Reordered l l') : Reordered (a :: l) (a :: l')
  | trans {l₁ l₂ l₃ : List Alias} (h₁ : Reordered l₁ l₂) (h₂ : Reordered l₂ l₃) : Reordered l₁ l₃

/-- Aliases of different phrases may be put into any order. -/
theorem reordered_of_perm (h : l.Perm l') (hphrases : (l.map Alias.phrase).Nodup) :
    Reordered l l' := by
  induction h with
  | nil => exact .refl []
  | cons a _ ih => exact (ih (List.nodup_cons.1 hphrases).2).cons a
  | swap a b l =>
    have hne : b.phrase ≠ a.phrase := by
      have hfirst := (List.nodup_cons.1 hphrases).1
      exact (List.ne_of_not_mem_cons hfirst)
    exact .swap hne l
  | trans h₁ _ ih₁ ih₂ =>
    exact (ih₁ hphrases).trans (ih₂ ((h₁.map Alias.phrase).nodup_iff.1 hphrases))

theorem find?_of_reordered (h : Reordered l l') (phrase : String) :
    l.find? (·.phrase = phrase) = l'.find? (·.phrase = phrase) := by
  induction h with
  | refl l => rfl
  | @swap a b hne l =>
    by_cases ha : a.phrase = phrase
    · have hb : b.phrase ≠ phrase := fun hb => hne (ha.trans hb.symm)
      simp [ha, hb]
    · simp [List.find?_cons, ha]
  | cons a _ ih => rw [List.find?_cons, List.find?_cons, ih]
  | trans _ _ ih₁ ih₂ => exact ih₁.trans ih₂

theorem agree_of_reordered (h : Reordered l l') (raw : String) : Agree ⟨l⟩ ⟨l'⟩ raw :=
  fun phrase _ => congrArg (Option.map Alias.command) (find?_of_reordered h phrase)

/-- An alias counts only for its own phrase, and only if the phrase is not declared before it. -/
theorem agree_of_insert (h : a.phrase ∈ before.map Alias.phrase ∨ ¬Bears a.phrase raw) :
    Agree ⟨before ++ a :: after⟩ ⟨before ++ after⟩ raw := by
  intro phrase hbears
  refine congrArg (Option.map Alias.command) ?_
  simp only [named?, List.find?_append, List.find?_cons]
  by_cases ha : a.phrase = phrase
  · subst ha
    obtain ⟨b, hb, hphrase⟩ := List.mem_map.1 (h.resolve_right (not_not_intro hbears))
    have hsome : (before.find? (·.phrase = a.phrase)).isSome = true :=
      List.find?_isSome.2 ⟨b, hb, by simpa using hphrase⟩
    rw [Option.or_of_isSome hsome, Option.or_of_isSome hsome]
  · simp [ha]

/-- Input comes to the same with two tables that have the same command, or none, as the first one
for each phrase in front of the input (only the empty phrase counts for empty input, and only there
it counts). So aliases may be reordered as long as those of one phrase keep their order, in
particular at will if no two have the same phrase; and it makes no difference to have or not to have
an alias of a phrase that is declared before, or of one that is not in front of the input. -/
theorem resolve_told_by_first_declarations :
    (∀ (t u : AliasTable) (raw : String), t.Agree u raw → t.resolve raw = u.resolve raw) ∧
      (∀ l l', Reordered l l' → ∀ raw, resolve ⟨l⟩ raw = resolve ⟨l'⟩ raw) ∧
      (∀ l l', l.Perm l' → (l.map Alias.phrase).Nodup →
        ∀ raw, resolve ⟨l⟩ raw = resolve ⟨l'⟩ raw) ∧
      (∀ before a after, a.phrase ∈ before.map Alias.phrase →
        ∀ raw, resolve ⟨before ++ a :: after⟩ raw = resolve ⟨before ++ after⟩ raw) ∧
      ∀ before a after raw, ¬a.phrase.toList <+: raw.toList →
        resolve ⟨before ++ a :: after⟩ raw = resolve ⟨before ++ after⟩ raw := by
  refine ⟨fun _ _ _ h => h.resolve_eq, fun _ _ h raw => (agree_of_reordered h raw).resolve_eq,
    fun l l' hperm hphrases raw => ?_, fun before a after hmem raw => ?_,
    fun before a after raw hnot => ?_⟩
  · exact (agree_of_reordered (reordered_of_perm hperm hphrases) raw).resolve_eq
  · exact (agree_of_insert (.inl hmem)).resolve_eq
  · exact (agree_of_insert (.inr fun hbears => hnot hbears.1)).resolve_eq

/-- A table with an empty phrase and a phrase declared twice, and one that has the aliases in another
order, with others in place of those that do not count. -/
theorem walk_home_with_either_table :
    let g : Alias := ⟨"g", "get"⟩
    let go : Alias := ⟨"go", "walk"⟩
    let again : Alias := ⟨"go", "run"⟩
    let north : Alias := ⟨"north", "go north"⟩
    let t : AliasTable := ⟨[⟨"", "quit"⟩, g, go, again]⟩
    let u : AliasTable := ⟨[go, north, ⟨"go", "crawl"⟩, g]⟩
    let raw := "go home"
    (t.Agree u raw ∧ t.resolve raw = u.resolve raw) ∧
      (Reordered [g, go, again] [go, g, again] ∧
        resolve ⟨[g, go, again]⟩ raw = resolve ⟨[go, g, again]⟩ raw) ∧
      (([g, go, north].Perm [north, g, go] ∧ ([g, go, north].map Alias.phrase).Nodup) ∧
        resolve ⟨[g, go, north]⟩ raw = resolve ⟨[north, g, go]⟩ raw) ∧
      (again.phrase ∈ [g, go].map Alias.phrase ∧
        resolve ⟨[g, go] ++ again :: [north]⟩ raw = resolve ⟨[g, go] ++ [north]⟩ raw) ∧
      (¬north.phrase.toList <+: raw.toList ∧
        resolve ⟨[g] ++ north :: [go]⟩ raw = resolve ⟨[g] ++ [go]⟩ raw) ∧
      u.resolve raw = "walk home" := by
  intro g go again north t u raw
  obtain ⟨agreed, reordered, permuted, duplicate, elsewhere⟩ := resolve_told_by_first_declarations
  have agree : t.Agree u raw := by decide +kernel
  have swap : Reordered [g, go, again] [go, g, again] := .swap (by decide) [again]
  have perm : [g, go, north].Perm [north, g, go] := by decide +kernel
  have nodup : ([g, go, north].map Alias.phrase).Nodup := by decide +kernel
  have mem : again.phrase ∈ [g, go].map Alias.phrase := by decide +kernel
  have apart : ¬north.phrase.toList <+: raw.toList := by decide +kernel
  exact ⟨⟨agree, agreed t u raw agree⟩, ⟨swap, reordered _ _ swap raw⟩,
    ⟨⟨perm, nodup⟩, permuted _ _ perm nodup raw⟩, ⟨mem, duplicate _ _ _ mem raw⟩,
    ⟨apart, elsewhere _ _ _ raw apart⟩, by decide +kernel⟩

end AliasTable

end TextAdventure
