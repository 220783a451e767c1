import TextAdventure.Proofs.Declarations

/-!
# Input that is a phrase

Input that is a phrase becomes the command of the phrase, and no longest phrase is looked for. Had it
been resolved by the longest phrase in front of it, as other input is (`AliasTable.resolveByLongest`),
that phrase would be the input itself, and the outcome the same, unless the input begins with its own
command and goes on with a blank (`AliasTable.phrase_resolved_either_way`).
-/

namespace TextAdventure

open Text (isBlank)

namespace AliasTable

variable {t : AliasTable} {a : Alias} {raw command : String}

/-- The input with the longest phrase in front of it replaced, be it a phrase itself or not. -/
def resolveByLongest (t : AliasTable) (raw : String) : String :=
  match t.longest? raw with
  | none => raw
  | some a => if isExpanded raw a.command then raw else expand a raw

/-- Only for input that is a phrase anything else is done. -/
theorem resolve_eq_getD (t : AliasTable) (raw : String) :
    t.resolve raw = ((t.named? raw).map Alias.command).getD (t.resolveByLongest raw) := by
  unfold resolve
  cases t.named? raw with
  | none => rfl
  | some a => rfl

/-- The input begins with the command and goes on with a blank. -/
def GoesOn (raw command : String) : Prop :=
  ∃ c rest, isBlank c = true ∧ raw.toList = command.toList ++ c :: rest

theorem beginsWith_iff : BeginsWith raw command ↔ raw = command ∨ GoesOn raw command :=
  Iff.rfl

theorem GoesOn.ne (h : GoesOn raw command) : raw ≠ command := by
  obtain ⟨c, rest, -, hraw⟩ := h
  rintro rfl
  have hlength := congrArg List.length hraw
  rw [List.length_append, List.length_cons] at hlength
  omega

/-- No phrase in front of a phrase is longer than itself. -/
theorem foremost_of_named? (h : t.named? raw = some a) (hne : raw ≠ "") : t.Foremost raw a := by
  obtain ⟨-, hphrase⟩ := phrase_of_named? h
  refine foremost_iff_named?.2 ⟨?_, by rw [hphrase, h], fun b _ hlead => ?_⟩
  · rw [leads_iff, hphrase]
    exact ⟨hne, List.prefix_rfl⟩
  · have hle := (leads_iff.1 hlead).2.length_le
    rwa [String.length_toList, String.length_toList, ← hphrase] at hle

theorem expand_phrase (a : Alias) : expand a a.phrase = a.command := by
  have h := expand_append a ""
  rwa [String.append_empty] at h

theorem resolveByLongest_of_goesOn (h : t.Foremost raw a) (hgoes : GoesOn raw a.command) :
    t.resolveByLongest raw = raw := by
  have hexpanded := isExpanded_iff.2 (beginsWith_iff.2 (.inr hgoes))
  simp only [resolveByLongest, longest?_eq_some_iff.2 h, if_pos hexpanded]

/-- If a phrase does not go on after its command, it becomes its command or is it already. -/
theorem resolveByLongest_of_not_goesOn (h : t.Foremost raw a) (hphrase : a.phrase = raw)
    (hgoes : ¬GoesOn raw a.command) : t.resolveByLongest raw = a.command := by
  simp only [resolveByLongest, longest?_eq_some_iff.2 h]
  split
  · rename_i hexpanded
    exact (beginsWith_iff.1 (isExpanded_iff.1 hexpanded)).resolve_right hgoes
  · rw [← hphrase, expand_phrase]

/-- Of input that is a phrase, and not empty, the longest phrase in front of it is the input itself,
by the first alias that has it. So resolving it by the longest phrase comes to the command of that
alias too, unless the input begins with this command and goes on with a blank: then it would stay as
it is. -/
theorem phrase_resolved_either_way (t : AliasTable) (raw : String) :
    t.resolve raw = ((t.named? raw).map Alias.command).getD (t.resolveByLongest raw) ∧
      ∀ before a after, t.aliases = before ++ a :: after → a.phrase = raw →
        (∀ b ∈ before, b.phrase ≠ raw) → raw ≠ "" →
          t.longest? raw = some a ∧
          t.resolve raw = a.command ∧
          (t.resolveByLongest raw = t.resolve raw ↔ ¬GoesOn raw a.command) ∧
          (GoesOn raw a.command → t.resolveByLongest raw = raw) := by
  refine ⟨resolve_eq_getD t raw, fun before a after hsplit hphrase hbefore hne => ?_⟩
  have hnamed := named?_eq_some hsplit hphrase hbefore
  have hforemost := foremost_of_named? hnamed hne
  have hresolve : t.resolve raw = a.command := by rw [resolve, hnamed]
  refine ⟨longest?_eq_some_iff.2 hforemost, hresolve, ⟨fun hsame hgoes => ?_, fun hgoes => ?_⟩,
    resolveByLongest_of_goesOn hforemost⟩
  · rw [resolveByLongest_of_goesOn hforemost hgoes, hresolve] at hsame
    exact hgoes.ne hsame
  · rw [resolveByLongest_of_not_goesOn hforemost hphrase hgoes, hresolve]

/-- A phrase that goes on after its own command, declared twice, with a shorter phrase before it:
going home is going, but by the longest phrase it would stay what it is. -/
theorem go_home_is_go :
    let t : AliasTable := ⟨[⟨"go", "walk"⟩, ⟨"go home", "go"⟩, ⟨"go home", "rest"⟩]⟩
    let raw := "go home"
    (∀ b ∈ [⟨"go", "walk"⟩], Alias.phrase b ≠ raw) ∧ raw ≠ "" ∧ GoesOn raw "go" ∧
      t.longest? raw = some ⟨"go home", "go"⟩ ∧ t.resolve raw = "go" ∧
      t.resolveByLongest raw = "go home" ∧ t.resolveByLongest raw ≠ t.resolve raw := by
  intro t raw
  have before : ∀ b ∈ [⟨"go", "walk"⟩], Alias.phrase b ≠ raw := by decide +kernel
  have hne : raw ≠ "" := by decide +kernel
  have goes : GoesOn raw "go" := ⟨' ', "home".toList, Text.isBlank_space, by decide +kernel⟩
  obtain ⟨longest, resolved, same, stays⟩ := (phrase_resolved_either_way t raw).2
    [⟨"go", "walk"⟩] ⟨"go home", "go"⟩ [⟨"go home", "rest"⟩] rfl rfl before hne
  exact ⟨before, hne, goes, longest, resolved, stays goes, fun h => same.1 h goes⟩

end AliasTable

end TextAdventure
