/-!
# Blanks and words

A character is blank when Unicode gives it the property `White_Space`. The words of a text are its
longest runs of characters that are not blank; `joinWords` puts one space between them.
-/

namespace TextAdventure.Text

/-- Has the property `White_Space`. -/
def isBlank (c : Char) : Bool :=
  let n := c.toNat
  (0x9 ≤ n && n ≤ 0xD) || n == 0x20 || n == 0x85 || n == 0xA0 || n == 0x1680
    || (0x2000 ≤ n && n ≤ 0x200A) || n == 0x2028 || n == 0x2029 || n == 0x202F || n == 0x205F
    || n == 0x3000

theorem isBlank_space : isBlank ' ' = true := by decide

/-! ## Words -/

/-- The words of `cs`, first to last. -/
def wordsOf (cs : List Char) : List (List Char) :=
  (cs.splitOnP isBlank).filter (· ≠ [])

@[simp] theorem wordsOf_nil : wordsOf [] = [] :=
  rfl

/-- A text falls apart at every blank. -/
theorem wordsOf_append_cons {c : Char} (h : isBlank c = true) (cs ds : List Char) :
    wordsOf (cs ++ c :: ds) = wordsOf cs ++ wordsOf ds := by
  unfold wordsOf
  rw [List.splitOnP_append_cons cs ds h, List.filter_append]

theorem wordsOf_cons_of_blank {c : Char} (h : isBlank c = true) (cs : List Char) :
    wordsOf (c :: cs) = wordsOf cs := by
  simpa using wordsOf_append_cons h [] cs

/-- The words of a text, first to last. -/
def words (s : String) : List String :=
  (wordsOf s.toList).map String.ofList

/-- The words with one space between each and the next. -/
def joinWords (ws : List String) : String :=
  String.intercalate " " ws

end TextAdventure.Text
