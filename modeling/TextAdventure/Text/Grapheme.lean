import TextAdventure.Text.Property

/-!
# Grapheme clusters

What a reader takes for one character may be several: a letter with its accents, a syllable, a flag.
A text divides into such clusters by the boundary rules of Unicode. `Break` holds the classes of
characters that the rules speak of, and `Before.joins` the rules.
-/

namespace TextAdventure.Text

/-- The classes of characters that boundaries depend on. -/
inductive Break
  | control | extend | nonJoiner | joiner | spacing | prepended | flag | pictograph
  | lead | vowel | tail | leadVowel | leadVowelTail
  | consonant | linker | plain
  deriving DecidableEq, Repr

namespace Break

/-- The class of a character. Hangul syllables with and without a tail alternate in a fixed way; the
vowels of one other script join as those of Hangul do. -/
def ofChar (c : Char) : Break :=
  let n := c.toNat
  if Property.control.holds c then control
  else if n == 0x200C then nonJoiner
  else if n == 0x200D then joiner
  else if Property.conjunctLinker.holds c then linker
  else if Property.graphemeExtend.holds c || (0x1F3FB ≤ n && n ≤ 0x1F3FF) then extend
  else if Property.spacingMark.holds c then spacing
  else if Property.prepended.holds c then prepended
  else if 0x1F1E6 ≤ n && n ≤ 0x1F1FF then flag
  else if (0x1100 ≤ n && n ≤ 0x115F) || (0xA960 ≤ n && n ≤ 0xA97C) then lead
  else if (0x1160 ≤ n && n ≤ 0x11A7) || (0xD7B0 ≤ n && n ≤ 0xD7C6) || n == 0x16D63
    || (0x16D67 ≤ n && n ≤ 0x16D6A) then vowel
  else if (0x11A8 ≤ n && n ≤ 0x11FF) || (0xD7CB ≤ n && n ≤ 0xD7FB) then tail
  else if 0xAC00 ≤ n && n ≤ 0xD7A3 then
    if (n - 0xAC00) % 28 == 0 then leadVowel else leadVowelTail
  else if Property.conjunctConsonant.holds c then consonant
  else if Property.pictographic.holds c then pictograph
  else plain

/-- Extends what stands before it; a joiner, which joins what follows, is not counted. -/
def isExtend : Break → Bool
  | extend | linker | nonJoiner => true
  | _ => false

/-- May stand between the consonants of a syllable. A non-joiner keeps them apart. -/
def isConjunct : Break → Bool
  | extend | linker | joiner => true
  | _ => false

end Break

/-- What a boundary decision needs to know of the characters before it. -/
structure Before where
  /-- The class of the last character. -/
  last : Break
  /-- The last characters are a pictograph and marks that extend it, and perhaps one joiner. -/
  afterPictograph : Bool
  /-- The last characters are an odd number of flag letters. -/
  oddFlags : Bool
  /-- The last characters are a consonant and marks that may follow it in a syllable. -/
  afterConsonant : Bool
  /-- One of the marks after the consonant links it to the next. -/
  linked : Bool

namespace Before

/-- What is known after a first character of class `b`. -/
def first (b : Break) : Before :=
  ⟨b, b = .pictograph, b = .flag, b = .consonant, false⟩

/-- What is known after one more character of class `b`. -/
def next (before : Before) (b : Break) : Before where
  last := b
  afterPictograph := b = .pictograph
    || (before.afterPictograph && before.last != .joiner && (b.isExtend || b = .joiner))
  oddFlags := b = .flag && !before.oddFlags
  afterConsonant := b = .consonant || (before.afterConsonant && b.isConjunct)
  linked := before.afterConsonant && b.isConjunct && (before.linked || b = .linker)

/-- No boundary lies between the characters seen and one of class `b`. -/
def joins (before : Before) (b : Break) : Bool :=
  match before.last, b with
  | .control, _ => false
  | _, .control => false
  | .lead, .lead | .lead, .vowel | .lead, .leadVowel | .lead, .leadVowelTail => true
  | .leadVowel, .vowel | .leadVowel, .tail | .vowel, .vowel | .vowel, .tail => true
  | .leadVowelTail, .tail | .tail, .tail => true
  | _, .extend | _, .linker | _, .nonJoiner | _, .joiner | _, .spacing => true
  | .prepended, _ => true
  | .joiner, .pictograph => before.afterPictograph
  | .flag, .flag => before.oddFlags
  | _, .consonant => before.afterConsonant && before.linked
  | _, _ => false

end Before

end TextAdventure.Text
