import TextAdventure.Proofs.FullCommands

/-!
# The words of expanded input

Input stays as it is, or one alias of the table has its phrase in front of it replaced
(`AliasTable.Replaces`). The words are then those of the alias's command and after them those of the
rest of the input, none run together, left out or moved (`AliasTable.resolve_keeps_words`). Nothing
is asked of phrases and commands: they may be empty or blank, and begin or end with blanks or within
a word.
-/

namespace TextAdventure

open Text (words)

/-- A command is told by the words of the input, whatever stands between them. -/
theorem Command.parse_congr {s t : String} (h : words s = words t) :
    Command.parse s = Command.parse t := by
  rw [Command.parse, Command.parse, h]

namespace AliasTable

variable {t : AliasTable} {a : Alias} {raw : String}

/-- The alias whose command takes the place of its phrase in the input: the first one that the input
is the phrase of, or else the foremost one, unless the input begins with its command already. -/
def Replaces (t : AliasTable) (raw : String) (a : Alias) : Prop :=
  t.named? raw = some a ∨
    t.named? raw = none ∧ t.Foremost raw a ∧ ¬BeginsWith raw a.command

namespace Replaces

theorem mem (h : t.Replaces raw a) : a ∈ t.aliases := by
  rcases h with hnamed | ⟨-, hforemost, -⟩
  · exact (phrase_of_named? hnamed).1
  · exact hforemost.mem

theorem exists_eq_append (h : t.Replaces raw a) : ∃ rest, raw = a.phrase ++ rest := by
  rcases h with hnamed | ⟨-, hforemost, -⟩
  · exact ⟨"", by rw [(phrase_of_named? hnamed).2, String.append_empty]⟩
  · exact Text.exists_eq_append_of_prefix (leads_iff.1 hforemost.1).2

theorem resolve_eq (h : t.Replaces raw a) : t.resolve raw = expand a raw := by
  rcases h with hnamed | ⟨hnamed, hforemost, hbegins⟩
  · have hdrop : raw.toList.drop a.phrase.length = [] := by
      rw [(phrase_of_named? hnamed).2, ← String.length_toList, List.drop_length]
    rw [resolve, hnamed, expand, hdrop]
    rfl
  · have hexpanded : ¬isExpanded raw a.command = true := fun h => hbegins (isExpanded_iff.1 h)
    simp only [resolve, hnamed, longest?_eq_some_iff.2 hforemost, if_neg hexpanded]

theorem words_resolve {rest : String} (h : t.Replaces raw a) (hraw : raw = a.phrase ++ rest) :
    words (t.resolve raw) = words a.command ++ words rest := by
  rw [h.resolve_eq, words_expand hraw]

end Replaces

theorem resolve_of_not_replaces (h : ∀ a, ¬t.Replaces raw a) : t.resolve raw = raw := by
  have hr := resolves_resolve t raw
  generalize t.resolve raw = out at hr ⊢
  cases hr with
  | named hnamed => exact absurd (.inl hnamed) (h _)
  | plain => rfl
  | expanded => rfl
  | expand hnamed hlongest hbegins => exact absurd (.inr ⟨hnamed, hlongest, hbegins⟩) (h _)

/-- If no alias has its phrase replaced, the input stays as it is and tells the same command. Else
the alias is one of the table and its phrase stands in front of the input; the words of what comes
out are the words of its command followed by the words after the phrase, so that they tell the same
command as these two texts with a space between them. -/
theorem resolve_keeps_words (t : AliasTable) (raw : String) :
    ((∀ a, ¬t.Replaces raw a) ∧ t.resolve raw = raw ∧
        Command.parse (t.resolve raw) = Command.parse raw) ∨
      ∃ a rest, t.Replaces raw a ∧ a ∈ t.aliases ∧ raw = a.phrase ++ rest ∧
        words (t.resolve raw) = words a.command ++ words rest ∧
        Command.parse (t.resolve raw) = Command.parse (a.command ++ " " ++ rest) := by
  by_cases h : ∃ a, t.Replaces raw a
  · obtain ⟨a, ha⟩ := h
    obtain ⟨rest, hraw⟩ := ha.exists_eq_append
    have hwords := ha.words_resolve hraw
    refine .inr ⟨a, rest, ha, ha.mem, hraw, hwords, Command.parse_congr ?_⟩
    rw [hwords, Text.words_append_space]
  · have hnone : ∀ a, ¬t.Replaces raw a := fun a ha => h ⟨a, ha⟩
    have hsame := resolve_of_not_replaces hnone
    exact .inl ⟨hnone, hsame, congrArg Command.parse hsame⟩

end AliasTable

end TextAdventure
