import TextAdventure.CommandLine.Run
import TextAdventure.Text.Octets

/-!
# Lines of input

The lines of a text are what stands before each newline, without one carriage return at its end, and
what stands after the last newline, if that is anything (`Text.lines`). The program reads its input
as octets, a line at a time. Of a text without backspaces, what it reads is the lines of the text
(`CommandLine.events_of_text`): no octet of another character is a newline.
-/

namespace TextAdventure

namespace Text

/-! ## The lines of a text -/

/-- A line without the carriage return at its end, if it has one. -/
def dropReturn (line : List Char) : List Char :=
  if line.getLast? = some '\r' then line.dropLast else line

/-- The lines of `cs`: what stands before each newline, and the rest if there is one. -/
def linesOf (cs : List Char) : List (List Char) :=
  let parts := cs.splitOn '\n'
  parts.dropLast.map dropReturn ++ parts.getLast?.toList.filter (· ≠ [])

/-- The lines of a text, first to last. -/
def lines (s : String) : List String :=
  (linesOf s.toList).map String.ofList

theorem linesOf_of_not_mem {cs : List Char} (h : '\n' ∉ cs) :
    linesOf cs = if cs = [] then [] else [cs] := by
  have hparts : cs.splitOn '\n' = [cs] := List.splitOn_eq_singleton h
  by_cases hcs : cs = [] <;> simp [linesOf, hparts, hcs]

theorem linesOf_append_cons {cs : List Char} (h : '\n' ∉ cs) (rest : List Char) :
    linesOf (cs ++ '\n' :: rest) = dropReturn cs :: linesOf rest := by
  have hparts : (cs ++ '\n' :: rest).splitOn '\n' = cs :: rest.splitOn '\n' :=
    List.splitOn_append_cons_self_of_not_mem h ..
  have hrest : rest.splitOn '\n' ≠ [] := List.splitOn_ne_nil _ _
  simp [linesOf, hparts, List.dropLast_cons_of_ne_nil hrest, List.getLast?_cons_of_ne_nil hrest]

/-- What holds of a text without a newline, and of a text with a line in front of it if of the text,
holds of all texts. -/
theorem line_induction {motive : List Char → Prop} (last : ∀ cs, '\n' ∉ cs → motive cs)
    (line : ∀ cs rest, '\n' ∉ cs → motive rest → motive (cs ++ '\n' :: rest)) (cs : List Char) :
    motive cs := by
  by_cases h : '\n' ∈ cs
  · obtain ⟨first, rest, rfl, hfirst⟩ := List.eq_append_cons_of_mem h
    exact line first rest hfirst (line_induction last line rest)
  · exact last cs h
termination_by cs.length
decreasing_by simp [*]; omega

/-! ## Octets -/

/-- The octets of characters. -/
def octetsOf (cs : List Char) : List UInt8 :=
  cs.flatMap String.utf8EncodeChar

theorem octets_eq (s : String) : octets s = octetsOf s.toList := by
  have hs : s.toByteArray = s.toList.utf8Encode := by
    rw [← String.toByteArray_ofList, String.ofList_toList]
  simp [octets, octetsOf, hs, List.utf8Encode]

theorem octetsOf_append (cs ds : List Char) : octetsOf (cs ++ ds) = octetsOf cs ++ octetsOf ds :=
  List.flatMap_append

theorem octetsOf_cons_newline (cs : List Char) : octetsOf ('\n' :: cs) = 10 :: octetsOf cs :=
  rfl

theorem octetsOf_eq_nil_iff {cs : List Char} : octetsOf cs = [] ↔ cs = [] := by
  cases cs <;> simp [octetsOf, String.utf8EncodeChar_ne_nil]

theorem textOf_octetsOf (cs : List Char) :
    textOf (.ok ⟨(octetsOf cs).toArray⟩) = .ok (String.ofList cs) := by
  have hbytes : (⟨(octetsOf cs).toArray⟩ : ByteArray) = (String.ofList cs).toUTF8 := by
    rw [String.toUTF8, String.toByteArray_ofList, List.utf8Encode, ← List.data_toByteArray]
    rfl
  rw [hbytes, textOf_toUTF8]

/-- Each octet of a character that takes more than one is at least 128. -/
theorem le_toNat_of_mem {c : Char} (hc : 127 < c.val.toNat) :
    ∀ b ∈ String.utf8EncodeChar c, 128 ≤ b.toNat := by
  unfold String.utf8EncodeChar
  rw [if_neg (Nat.not_le.2 hc)]
  split
  · simp only [List.forall_mem_cons, UInt8.toNat_ofNat']
    exact ⟨by omega, by omega, by simp⟩
  · split
    · simp only [List.forall_mem_cons, UInt8.toNat_ofNat']
      exact ⟨by omega, by omega, by omega, by simp⟩
    · simp only [List.forall_mem_cons, UInt8.toNat_ofNat']
      exact ⟨by omega, by omega, by omega, by omega, by simp⟩

/-- Only a newline has the octet of a newline. -/
theorem eq_newline_of_mem {c : Char} (h : 10 ∈ String.utf8EncodeChar c) : c = '\n' := by
  rcases Nat.lt_or_ge 127 c.val.toNat with hc | hc
  · exact absurd (le_toNat_of_mem hc 10 h) (by decide)
  · unfold String.utf8EncodeChar at h
    rw [if_pos hc, List.mem_singleton] at h
    have hoctet : 10 = c.val.toNat % 256 := congrArg UInt8.toNat h
    exact Char.ext (UInt32.toNat_inj.1 (by omega : c.val.toNat = 10))

theorem newline_not_mem_octetsOf {cs : List Char} (h : '\n' ∉ cs) : 10 ∉ octetsOf cs := by
  rw [octetsOf, List.mem_flatMap]
  rintro ⟨c, hc, hmem⟩
  exact h (eq_newline_of_mem hmem ▸ hc)

end Text

namespace CommandLine

open Text

theorem splitLines_of_not_mem {bs : List UInt8} (h : 10 ∉ bs) :
    splitLines bs = if bs = [] then [] else [bs] := by
  induction bs with
  | nil => rfl
  | cons b bs ih =>
    have hb : b ≠ 10 := (List.ne_of_not_mem_cons h).symm
    rw [splitLines, if_neg hb, ih (List.not_mem_of_not_mem_cons h)]
    by_cases hbs : bs = [] <;> simp [hbs]

theorem splitLines_append_cons {bs : List UInt8} (h : 10 ∉ bs) (rest : List UInt8) :
    splitLines (bs ++ 10 :: rest) = (bs ++ [10]) :: splitLines rest := by
  induction bs with
  | nil => rfl
  | cons b bs ih =>
    have hb : b ≠ 10 := (List.ne_of_not_mem_cons h).symm
    rw [List.cons_append, splitLines, if_neg hb, ih (List.not_mem_of_not_mem_cons h)]
    rfl

theorem dropLineEnd_of_not_mem {line : List Char} (h : '\n' ∉ line) : dropLineEnd line = line := by
  have hrev : '\n' ∉ line.reverse := fun hmem => h (List.mem_reverse.1 hmem)
  unfold dropLineEnd
  split
  case h_1 hline | h_2 hline => exact absurd (hline ▸ List.mem_cons_self) hrev
  case h_3 => rfl

theorem dropLineEnd_append_newline (line : List Char) :
    dropLineEnd (line ++ ['\n']) = dropReturn line := by
  rcases List.eq_nil_or_concat line with rfl | ⟨first, c, rfl⟩
  · rfl
  · by_cases hc : c = '\r'
    · simp [dropLineEnd, dropReturn, hc]
    · simp [dropLineEnd, dropReturn, hc]

theorem mem_of_mem_dropLineEnd {c : Char} {line : List Char} (h : c ∈ dropLineEnd line) :
    c ∈ line := by
  rw [← List.mem_reverse]
  unfold dropLineEnd at h
  -- What is left of a line is a part of it, whatever stood at its end.
  split at h
  case h_1 hline | h_2 hline => simp [hline, List.mem_reverse.1 h]
  case h_3 => exact List.mem_reverse.2 h

/-- The editor hears a line without backspaces as it stands, without its line end. -/
theorem eventOf?_octetsOf {line : List Char} (h : '\x08' ∉ line) :
    eventOf? (octetsOf line) = some (.line (String.ofList (dropLineEnd line))) := by
  have herase : eraseBackspaces? (dropLineEnd line) = some (dropLineEnd line) :=
    eraseBackspaces?_of_not_mem fun hmem => h (mem_of_mem_dropLineEnd hmem)
  simp [eventOf?, textOf_octetsOf, herase]

theorem events_octetsOf {cs : List Char} (h : '\x08' ∉ cs) :
    (splitLines (octetsOf cs)).map eventOf? =
      (linesOf cs).map fun line => some (.line (String.ofList line)) := by
  induction cs using line_induction with
  | last cs hcs =>
    rw [splitLines_of_not_mem (newline_not_mem_octetsOf hcs), linesOf_of_not_mem hcs]
    by_cases hnil : cs = []
    · simp [hnil, octetsOf]
    · simp [hnil, octetsOf_eq_nil_iff, eventOf?_octetsOf h, dropLineEnd_of_not_mem hcs]
  | line cs rest hcs ih =>
    rw [List.mem_append, List.mem_cons, not_or, not_or] at h
    have hline : '\x08' ∉ cs ++ ['\n'] := by simp [h.1]
    have hfirst : octetsOf cs ++ [10] = octetsOf (cs ++ ['\n']) := by
      rw [octetsOf_append, octetsOf_cons_newline]
      rfl
    rw [octetsOf_append, octetsOf_cons_newline,
      splitLines_append_cons (newline_not_mem_octetsOf hcs), linesOf_append_cons hcs,
      List.map_cons, List.map_cons, hfirst, eventOf?_octetsOf hline, dropLineEnd_append_newline,
      ih h.2.2]

/-- Of a text without backspaces the editor hears the lines. -/
theorem events_of_text {text : String} (h : '\x08' ∉ text.toList) :
    (splitLines (octets text)).map eventOf? = ((lines text).map Event.line).map some := by
  rw [octets_eq, events_octetsOf h, lines, List.map_map, List.map_map]
  rfl

end CommandLine

end TextAdventure
