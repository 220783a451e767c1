/-!
# Numerals

A numeral is a number as it is written. It counts as an integer when it has neither fraction nor
exponent and fits 64 bits, with or without a sign; every other numeral counts as floating point.
-/

namespace TextAdventure.Json

/-- A number as written, by its digits. -/
structure Numeral where
  negative : Bool
  whole : List Char
  fraction : Option (List Char)
  /-- The exponent's sign, negative or not, and digits. -/
  exponent : Option (Bool × List Char)
  deriving DecidableEq, Repr

/-- How a numeral is taken. -/
inductive Number
  | integer (n : Int)
  | floating (x : Float)

namespace Numeral

/-- The value of a string of digits. -/
def value (digits : List Char) : Nat :=
  Nat.ofDigitChars 10 digits 0

def ofInt (n : Int) : Numeral :=
  ⟨n < 0, Nat.toDigits 10 n.natAbs, none, none⟩

/-- The numeral's characters. -/
def text (n : Numeral) : List Char :=
  (if n.negative then ['-'] else []) ++ n.whole
    ++ (match n.fraction with
      | none => []
      | some digits => '.' :: digits)
    ++ (match n.exponent with
      | none => []
      | some (negative, digits) => 'e' :: (if negative then '-' else '+') :: digits)

/-! ## Reading -/

/-- The digits in front, and what follows them. At least one digit is needed. -/
def scanDigits? (cs : List Char) : Option (List Char × List Char) :=
  match cs.takeWhile Char.isDigit with
  | [] => none
  | digits => some (digits, cs.dropWhile Char.isDigit)

/-- The digits of a whole number: more than one do not begin with a zero. -/
def scanWhole? (cs : List Char) : Option (List Char × List Char) :=
  match scanDigits? cs with
  | some ('0' :: _ :: _, _) => none
  | found => found

def scanFraction? : List Char → Option (Option (List Char) × List Char)
  | '.' :: cs => (scanDigits? cs).map fun (digits, rest) => (some digits, rest)
  | cs => some (none, cs)

/-- The sign of an exponent, which may be left out. -/
def scanSign : List Char → Bool × List Char
  | '-' :: cs => (true, cs)
  | '+' :: cs => (false, cs)
  | cs => (false, cs)

def scanExponent? : List Char → Option (Option (Bool × List Char) × List Char)
  | [] => some (none, [])
  | c :: cs =>
    if c = 'e' ∨ c = 'E' then
      (scanDigits? (scanSign cs).2).map fun (digits, rest) =>
        (some ((scanSign cs).1, digits), rest)
    else some (none, c :: cs)

/-- Whether a minus sign is in front, and what follows it. -/
def scanMinus : List Char → Bool × List Char
  | '-' :: cs => (true, cs)
  | cs => (false, cs)

/-- The numeral in front, and what follows it. -/
def scan? (cs : List Char) : Option (Numeral × List Char) := do
  let (whole, rest) ← scanWhole? (scanMinus cs).2
  let (fraction, rest) ← scanFraction? rest
  let (exponent, rest) ← scanExponent? rest
  some (⟨(scanMinus cs).1, whole, fraction, exponent⟩, rest)

theorem length_of_scanDigits? {cs digits rest : List Char}
    (h : scanDigits? cs = some (digits, rest)) : rest.length < cs.length := by
  unfold scanDigits? at h
  split at h
  · cases h
  · rename_i hne
    cases h
    have hlen := congrArg List.length
      (List.takeWhile_append_dropWhile (p := Char.isDigit) (l := cs))
    have hpos := List.length_pos_iff.2 hne
    rw [List.length_append] at hlen
    omega

theorem length_of_scanWhole? {cs digits rest : List Char}
    (h : scanWhole? cs = some (digits, rest)) : rest.length < cs.length := by
  unfold scanWhole? at h
  split at h
  · cases h
  · exact length_of_scanDigits? h

theorem length_of_scanFraction? {cs rest : List Char} {fraction : Option (List Char)}
    (h : scanFraction? cs = some (fraction, rest)) : rest.length ≤ cs.length := by
  unfold scanFraction? at h
  split at h
  · obtain ⟨p, hp, heq⟩ := Option.map_eq_some_iff.1 h
    cases heq
    have := length_of_scanDigits? hp
    simp only [List.length_cons]
    omega
  · cases h
    exact Nat.le_refl _

theorem length_scanMinus (cs : List Char) : (scanMinus cs).2.length ≤ cs.length := by
  unfold scanMinus
  split <;> simp

theorem length_scanSign (cs : List Char) : (scanSign cs).2.length ≤ cs.length := by
  unfold scanSign
  split <;> simp

theorem length_of_scanExponent? {cs rest : List Char} {exponent : Option (Bool × List Char)}
    (h : scanExponent? cs = some (exponent, rest)) : rest.length ≤ cs.length := by
  unfold scanExponent? at h
  split at h
  · cases h
    exact Nat.le_refl _
  · rename_i c cs
    split at h
    · obtain ⟨p, hp, heq⟩ := Option.map_eq_some_iff.1 h
      cases heq
      exact Nat.le_trans (Nat.le_of_lt (length_of_scanDigits? hp))
        (Nat.le_trans (length_scanSign cs) (Nat.le_succ _))
    · cases h
      exact Nat.le_refl _

/-- A numeral takes up at least one character. -/
theorem length_of_scan? {cs rest : List Char} {n : Numeral}
    (h : scan? cs = some (n, rest)) : rest.length < cs.length := by
  unfold scan? at h
  simp only [Option.bind_eq_bind, Option.bind_eq_some_iff] at h
  obtain ⟨⟨whole, cs₁⟩, h₁, ⟨fraction, cs₂⟩, h₂, ⟨exponent, cs₃⟩, h₃, heq⟩ := h
  cases heq
  exact Nat.lt_of_le_of_lt
    (Nat.le_trans (length_of_scanExponent? h₃) (length_of_scanFraction? h₂))
    (Nat.lt_of_lt_of_le (length_of_scanWhole? h₁) (length_scanMinus cs))

/-! ## Floating point -/

/-- Takes in digits while the number they make stays below `2 ^ 64`, and leaves the others. -/
def gather (n : Nat) : List Char → Nat × List Char
  | [] => (n, [])
  | c :: cs =>
    let m := 10 * n + (c.toNat - '0'.toNat)
    if m < 0x1_0000_0000_0000_0000 then gather m cs else (n, c :: cs)

/-- The power of ten nearest to `10 ^ k`. -/
def powerOfTen (k : Nat) : Float :=
  Float.ofScientific 1 false k

/-- `x * 10 ^ e` by one rounded power of ten, or by two when `e` is below all of them; nothing when
the result is too large. -/
def scale? (x : Float) (e : Int) : Option Float :=
  if x == 0 then some x
  else if 308 < e then none
  else if 0 ≤ e then
    let y := x * powerOfTen e.toNat
    if y.isInf then none else some y
  else if -308 ≤ e then some (x / powerOfTen (-e).toNat)
  else if -616 ≤ e then some (x / powerOfTen 308 / powerOfTen (-e - 308).toNat)
  else some 0

/-- The numeral as a floating-point number: its leading digits, as many as stay below `2 ^ 64`,
scaled by a power of ten. Nothing when it is out of range. -/
def float? (n : Numeral) : Option Float := do
  let (m, dropped) := gather 0 n.whole
  let fraction := n.fraction.getD []
  let (m, ignored) := gather m fraction
  let exponent : Int := match n.exponent with
    | none => 0
    | some (true, digits) => -value digits
    | some (false, digits) => value digits
  let x ← scale? m.toUInt64.toFloat (exponent + dropped.length - (fraction.length - ignored.length))
  some (if n.negative then -x else x)

/-- The integer that a numeral stands for, if it counts as one. A zero with a sign does not. -/
def integer? (n : Numeral) : Option Int :=
  if n.fraction.isSome || n.exponent.isSome then none
  else if n.negative then
    if 0 < value n.whole && value n.whole ≤ 0x8000_0000_0000_0000 then
      some (-value n.whole)
    else none
  else if value n.whole < 0x1_0000_0000_0000_0000 then some (value n.whole) else none

/-- How the numeral is taken; nothing when it is out of range. -/
def number? (n : Numeral) : Option Number :=
  match n.integer? with
  | some i => some (.integer i)
  | none => n.float?.map .floating

end Numeral

end TextAdventure.Json
