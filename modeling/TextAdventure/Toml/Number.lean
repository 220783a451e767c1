import TextAdventure.Toml.Text

/-!
# TOML numbers and dates

Integers lie in the signed 64-bit range and may be written in four bases. Floating-point numbers
must not be too large. Dates and times must exist, apart from leap seconds.
-/

namespace TextAdventure.Toml

/-! ## Digits -/

/-- The digits in front, single underscores between them left out. -/
def digitsFrom (p : Char → Bool) : List Char → List Char × List Char
  | [] => ([], [])
  | '_' :: c :: rest =>
    if p c then
      let (digits, rest) := digitsFrom p rest
      (c :: digits, rest)
    else ([], '_' :: c :: rest)
  | c :: rest =>
    if p c then
      let (digits, rest) := digitsFrom p rest
      (c :: digits, rest)
    else ([], c :: rest)

/-- At least one digit, and the others. -/
def scanDigits? (p : Char → Bool) : Scanner (List Char)
  | [] => none
  | c :: rest =>
    if p c then
      let (digits, rest) := digitsFrom p rest
      some (c :: digits, rest)
    else none

/-- The number of a string of digits of a base up to sixteen. -/
def digitsValue (base : Nat) (digits : List Char) : Nat :=
  digits.foldl (fun n c => base * n + (Text.hexValue? c).getD 0) 0

/-- Whether a minus sign is in front, a plus sign being left out. -/
def scanSign : List Char → Bool × List Char
  | '-' :: rest => (true, rest)
  | '+' :: rest => (false, rest)
  | cs => (false, cs)

/-- The digits of a decimal number: several do not begin with a zero. -/
def scanWhole? : Scanner (List Char)
  | '0' :: rest => some (['0'], rest)
  | cs => scanDigits? Char.isDigit cs

/-! ## Integers -/

/-- An integer of the signed 64-bit range. -/
def integer? (n : Int) : Option Value :=
  if -0x8000_0000_0000_0000 ≤ n ∧ n < 0x8000_0000_0000_0000 then some (.integer n) else none

/-- An integer in the given base. -/
def scanBased? (base : Nat) (p : Char → Bool) : Scanner Value := fun cs => do
  let (digits, rest) ← scanDigits? p cs
  let value ← integer? (digitsValue base digits)
  some (value, rest)

def scanInteger? : Scanner Value
  | '0' :: 'x' :: cs => scanBased? 16 (fun c => (Text.hexValue? c).isSome) cs
  | '0' :: 'o' :: cs => scanBased? 8 (fun c => '0' ≤ c && c ≤ '7') cs
  | '0' :: 'b' :: cs => scanBased? 2 (fun c => c = '0' || c = '1') cs
  | cs => do
    let (digits, rest) ← scanWhole? (scanSign cs).2
    let n : Int := digitsValue 10 digits
    let value ← integer? (if (scanSign cs).1 then -n else n)
    some (value, rest)

/-! ## Floating-point numbers -/

/-- The digits after a point, none if there is no point. -/
def scanFraction? : Scanner (Option (List Char))
  | '.' :: cs => (scanDigits? Char.isDigit cs).map fun (digits, rest) => (some digits, rest)
  | cs => some (none, cs)

/-- The value of an exponent, none if there is none. -/
def scanExponent? : Scanner (Option Int)
  | [] => some (none, [])
  | c :: cs =>
    if c = 'e' ∨ c = 'E' then
      (scanDigits? Char.isDigit (scanSign cs).2).map fun (digits, rest) =>
        let n : Int := digitsValue 10 digits
        (some (if (scanSign cs).1 then -n else n), rest)
    else some (none, c :: cs)

/-- The number `d * 10 ^ e`, `d` having this many digits, is nearer to `2 ^ 1024` than to every
number that a floating-point number can hold. -/
def isTooLarge (d digits : Nat) (e : Int) : Bool :=
  if d = 0 || digits + e < 308 then false
  else if 310 < digits + e then true
  else (Nat.pow 2 1024 - Nat.pow 2 970) * Nat.pow 10 (-e).toNat ≤ d * Nat.pow 10 e.toNat

def scanFloat? : Scanner Value := fun cs => do
  let (whole, rest) ← scanWhole? (scanSign cs).2
  let (fraction?, rest) ← scanFraction? rest
  let (exponent?, rest) ← scanExponent? rest
  if fraction?.isNone && exponent?.isNone then none
  else
    let fraction := fraction?.getD []
    let digits := (whole ++ fraction).dropWhile (· = '0')
    let exponent := exponent?.getD 0 - fraction.length
    if !(scanSign cs).1 && isTooLarge (digitsValue 10 digits) digits.length exponent then none
    else some (.float, rest)

/-- Infinity and not-a-number. -/
def scanSpecial? (cs : List Char) : Option (Value × List Char) :=
  match (scanSign cs).2 with
  | 'i' :: 'n' :: 'f' :: rest => some (.float, rest)
  | 'n' :: 'a' :: 'n' :: rest => some (.float, rest)
  | _ => none

/-! ## Dates and times -/

/-- The value of a number of two digits between two bounds. -/
def scanTwo? (low high : Nat) : Scanner Nat
  | a :: b :: rest =>
    let n := digitsValue 10 [a, b]
    if a.isDigit && b.isDigit && low ≤ n && n ≤ high then some (n, rest) else none
  | _ => none

/-- The value of a number of four digits. -/
def scanFour? : Scanner Nat
  | a :: b :: c :: d :: rest =>
    if [a, b, c, d].all Char.isDigit then some (digitsValue 10 [a, b, c, d], rest) else none
  | _ => none

/-- What follows the character `c`. -/
def after? (c : Char) : List Char → Option (List Char)
  | [] => none
  | c' :: rest => if c' = c then some rest else none

def isLeap (year : Nat) : Bool :=
  year % 4 = 0 && (year % 100 ≠ 0 || year % 400 = 0)

def daysOfMonth (year month : Nat) : Nat :=
  if month = 2 then if isLeap year then 29 else 28
  else if month = 4 || month = 6 || month = 9 || month = 11 then 30
  else 31

/-- What follows a date. -/
def afterDate? (cs : List Char) : Option (List Char) := do
  let (year, cs) ← scanFour? cs
  let cs ← after? '-' cs
  let (month, cs) ← scanTwo? 1 12 cs
  let cs ← after? '-' cs
  let (_, cs) ← scanTwo? 1 (daysOfMonth year month) cs
  some cs

/-- What follows a part of a second, if there is one. -/
def afterSecondPart : List Char → List Char
  | '.' :: c :: rest => if c.isDigit then rest.dropWhile Char.isDigit else '.' :: c :: rest
  | cs => cs

/-- What follows a time of day. -/
def afterTime? (cs : List Char) : Option (List Char) := do
  let (_, cs) ← scanTwo? 0 23 cs
  let cs ← after? ':' cs
  let (_, cs) ← scanTwo? 0 59 cs
  let cs ← after? ':' cs
  let (_, cs) ← scanTwo? 0 60 cs
  some (afterSecondPart cs)

/-- What follows a time zone. -/
def afterZone? : List Char → Option (List Char)
  | c :: cs =>
    if c = 'Z' ∨ c = 'z' then some cs
    else if c = '+' ∨ c = '-' then do
      let (_, cs) ← scanTwo? 0 23 cs
      let cs ← after? ':' cs
      let (_, cs) ← scanTwo? 0 59 cs
      some cs
    else none
  | [] => none

/-- What follows the time of a date, if there is one, and its zone, if there is one. -/
def afterMoment (cs : List Char) : List Char :=
  match cs with
  | c :: rest =>
    if c = 'T' ∨ c = 't' ∨ c = ' ' then
      match afterTime? rest with
      | some rest => (afterZone? rest).getD rest
      | none => cs
    else cs
  | [] => []

/-- A date, a time, or both. -/
def scanDate? (cs : List Char) : Option (Value × List Char) :=
  match afterDate? cs with
  | some rest => some (.date, afterMoment rest)
  | none => (afterTime? cs).map fun rest => (.date, rest)

/-- A number or a date. -/
def scanNumber? (cs : List Char) : Option (Value × List Char) :=
  scanDate? cs <|> scanFloat? cs <|> scanSpecial? cs <|> scanInteger? cs

end TextAdventure.Toml
