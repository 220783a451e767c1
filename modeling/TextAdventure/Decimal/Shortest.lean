/-!
# The shortest decimal of a floating-point number

A finite number `x` is written with the fewest digits that read back as `x`; of those the nearest
to `x`, and of two equally near the even one. The search goes through the decimal grids from the
coarsest to the finest and takes the first that has a point among the reals that round to `x`. All
arithmetic is exact.
-/

namespace TextAdventure.Decimal

/-- The positive reals that round to a positive floating-point number: with `unit = scale / base`,
those from `low * unit` to `high * unit`, around `mid * unit`. -/
structure Rounding where
  low : Nat
  mid : Nat
  high : Nat
  /-- The ends round to the number too. -/
  closed : Bool
  scale : Nat
  base : Nat

/-- What rounds to `mantissa * 2 ^ exponent`. Below a power of two the next number is half as far
away as above it. -/
def Rounding.ofBinary (mantissa : Nat) (exponent : Int) (power : Bool) : Rounding where
  low := 4 * mantissa - if power then 1 else 2
  mid := 4 * mantissa
  high := 4 * mantissa + 2
  closed := mantissa % 2 = 0
  scale := Nat.pow 2 (exponent - 2).toNat
  base := Nat.pow 2 (2 - exponent).toNat

/-- The point of the grid of multiples of `10 ^ k` that rounds to the number, if there is one. -/
def Rounding.onGrid? (r : Rounding) (k : Int) : Option Nat :=
  let up := r.scale * Nat.pow 10 (-k).toNat
  let down := r.base * Nat.pow 10 k.toNat
  let inside (n : Nat) : Bool :=
    if r.closed then r.low * up ≤ n * down && n * down ≤ r.high * up
    else r.low * up < n * down && n * down < r.high * up
  let below := r.mid * up / down
  let above := below + 1
  match inside below, inside above with
  | false, false => none
  | true, false => some below
  | false, true => some above
  | true, true =>
    let left := r.mid * up - below * down
    let right := above * down - r.mid * up
    if left < right || left = right && below % 2 = 0 then some below else some above

/-- The grids that finite numbers need, coarsest first. -/
def grids : List Int :=
  (List.range 633).map fun i : Nat => 308 - (i : Int)

/-- Digits `d` and an exponent `k` with `d * 10 ^ k` the shortest decimal. -/
def Rounding.shortest (r : Rounding) : Nat × Int :=
  (grids.findSome? fun k => (r.onGrid? k).map fun d => (d, k)).getD (0, 0)

/-! ## The text of a finite number -/

/-- When a number is written without an exponent: while the place of its decimal point, counted from
the front of its digits, is above `lowest` and at most `highest`. -/
structure Style where
  lowest : Int
  highest : Int

/-- The decimal `d * 10 ^ k`, with at least one digit after the point if there is no exponent. -/
def layout (style : Style) (d : Nat) (k : Int) : String :=
  let digits := Nat.toDigits 10 d
  let point := digits.length + k
  if 0 ≤ k && point ≤ style.highest then
    String.ofList (digits ++ List.replicate k.toNat '0') ++ ".0"
  else if 0 < point && point ≤ style.highest then
    String.ofList (digits.take point.toNat) ++ "." ++ String.ofList (digits.drop point.toNat)
  else if style.lowest < point && point ≤ 0 then
    "0." ++ String.ofList (List.replicate (-point).toNat '0' ++ digits)
  else
    let exponent := point - 1
    let head := String.ofList (digits.take 1)
    let tail := match digits.drop 1 with
      | [] => ""
      | ds => "." ++ String.ofList ds
    head ++ tail ++ (if 0 ≤ exponent then "e+" else "e-") ++ toString exponent.natAbs

/-- What rounds to the positive number with this exponent field and fraction field. -/
def Rounding.ofFields (exponent fraction : Nat) : Rounding :=
  if exponent = 0 then .ofBinary fraction (-1074) false
  else .ofBinary (Nat.pow 2 52 + fraction) ((exponent : Int) - 1075) (fraction = 0 && 1 < exponent)

/-- The text of a finite number. -/
def floatText (style : Style) (x : Float) : String :=
  let bits := x.toBits.toNat
  let exponent := bits / Nat.pow 2 52 % Nat.pow 2 11
  let fraction := bits % Nat.pow 2 52
  let sign := if bits / Nat.pow 2 63 = 1 then "-" else ""
  if exponent = 0 && fraction = 0 then sign ++ "0.0"
  else
    let (d, k) := (Rounding.ofFields exponent fraction).shortest
    sign ++ layout style d k

end TextAdventure.Decimal
