import TextAdventure.Text.Blank

/-!
# Words of a text

A text that does not begin with a blank begins with its first word, which a blank or the end of the
text cuts off (`Text.exists_eq_append_of_words`).
-/

namespace TextAdventure.Text

variable {cs rest w : List Char}

/-- Empty, or begins with a blank: a word in front of it ends there. -/
def Cut (rest : List Char) : Prop :=
  ∀ c ∈ rest.head?, isBlank c = true

theorem cut_cons {c : Char} : Cut (c :: rest) ↔ isBlank c = true := by
  simp [Cut]

theorem wordsOf_of_solid (h : ∀ c ∈ w, isBlank c = false) (hne : w ≠ []) : wordsOf w = [w] := by
  rw [wordsOf, List.splitOnP_eq_singleton h]
  simp [hne]

theorem wordsOf_append_of_cut (h : ∀ c ∈ w, isBlank c = false) (hne : w ≠ []) (hcut : Cut rest) :
    wordsOf (w ++ rest) = w :: wordsOf rest := by
  cases rest with
  | nil => rw [List.append_nil, wordsOf_of_solid h hne, wordsOf_nil]
  | cons c rest =>
    have hc : isBlank c = true := cut_cons.1 hcut
    rw [wordsOf_append_cons hc, wordsOf_of_solid h hne, wordsOf_cons_of_blank hc]
    rfl

theorem wordsOf_dropWhile (cs : List Char) : wordsOf (cs.dropWhile isBlank) = wordsOf cs := by
  induction cs with
  | nil => rfl
  | cons c cs ih =>
    by_cases hc : isBlank c = true
    · rw [List.dropWhile_cons_of_pos hc, ih, wordsOf_cons_of_blank hc]
    · rw [List.dropWhile_cons_of_neg hc]

theorem not_blank_of_mem_splitOnP (h : w ∈ cs.splitOnP isBlank) : ∀ c ∈ w, isBlank c = false := by
  induction cs generalizing w with
  | nil =>
    rw [List.splitOnP_nil, List.mem_singleton] at h
    simp [h]
  | cons c cs ih =>
    rw [List.splitOnP_cons_eq_if_modifyHead] at h
    split at h
    · rcases List.mem_cons.1 h with rfl | h
      · exact fun c hc => absurd hc List.not_mem_nil
      · exact ih h
    · rename_i hc
      obtain ⟨v, vs, hsplit⟩ := List.exists_cons_of_ne_nil (List.splitOnP_ne_nil isBlank cs)
      rw [hsplit, List.modifyHead_cons] at h
      rcases List.mem_cons.1 h with rfl | h
      · exact List.forall_mem_cons.2 ⟨by simpa using hc, ih (by simp [hsplit])⟩
      · exact ih (by simp [hsplit, h])

theorem solid_of_mem_wordsOf (h : w ∈ wordsOf cs) : w ≠ [] ∧ ∀ c ∈ w, isBlank c = false := by
  obtain ⟨hsplit, hne⟩ := List.mem_filter.1 h
  exact ⟨by simpa using hne, not_blank_of_mem_splitOnP hsplit⟩

/-- The first word of a text without blanks in front of it. -/
theorem exists_eq_append_of_wordsOf {ws : List (List Char)} (hwords : wordsOf cs = w :: ws)
    (hhead : ∀ c ∈ cs.head?, isBlank c = false) :
    ∃ rest, cs = w ++ rest ∧ Cut rest ∧ wordsOf rest = ws := by
  have hsplit : cs.takeWhile (!isBlank ·) ++ cs.dropWhile (!isBlank ·) = cs :=
    List.takeWhile_append_dropWhile
  have hsolid : ∀ c ∈ cs.takeWhile (!isBlank ·), isBlank c = false := by
    simpa using List.all_eq_true.1 (List.all_takeWhile (p := (!isBlank ·)) (l := cs))
  have hcut : Cut (cs.dropWhile (!isBlank ·)) := by
    intro c hc
    have hstop := List.head?_dropWhile_not (!isBlank ·) cs
    rw [Option.mem_def.1 hc] at hstop
    simpa using hstop
  have hne : cs.takeWhile (!isBlank ·) ≠ [] := by
    cases cs with
    | nil => simp at hwords
    | cons c cs => simp [show isBlank c = false from hhead c rfl]
  have hfirst := wordsOf_append_of_cut hsolid hne hcut
  rw [hsplit, hwords] at hfirst
  obtain ⟨rfl, rfl⟩ := List.cons.inj hfirst
  exact ⟨_, hsplit.symm, hcut, rfl⟩

/-! ## Texts -/

theorem exists_eq_append_of_prefix {s t : String} (h : t.toList <+: s.toList) :
    ∃ rest, s = t ++ rest := by
  obtain ⟨rest, hrest⟩ := h
  exact ⟨String.ofList rest, by rw [← String.toList_inj, ← hrest]; simp⟩

theorem exists_eq_append_of_words {s first : String} {ws : List String}
    (hwords : words s = first :: ws) (hhead : ∀ c ∈ s.toList.head?, isBlank c = false) :
    ∃ rest, s = first ++ rest ∧ Cut rest.toList ∧ words rest = ws := by
  obtain ⟨w, ws', hlist, rfl, rfl⟩ := List.map_eq_cons_iff.1 hwords
  obtain ⟨rest, hs, hcut, hrest⟩ := exists_eq_append_of_wordsOf hlist hhead
  have hofList : (String.ofList rest).toList = rest := String.toList_ofList
  refine ⟨String.ofList rest, ?_, hofList.symm ▸ hcut, ?_⟩
  · rw [← String.ofList_append, ← hs, String.ofList_toList]
  · rw [words, hofList, hrest]

theorem words_append_space (s t : String) : words (s ++ " " ++ t) = words s ++ words t := by
  have hlist : (s ++ " " ++ t).toList = s.toList ++ ' ' :: t.toList := by simp
  rw [words, hlist, wordsOf_append_cons isBlank_space, List.map_append]
  rfl

end TextAdventure.Text
