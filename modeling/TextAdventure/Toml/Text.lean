import TextAdventure.Text.Hex
import TextAdventure.Toml.Value

/-!
# TOML lines, strings and keys

What stands between values, the four kinds of strings, and keys.
-/

namespace TextAdventure.Toml

/-- Reads something in front of the characters and leaves the others. -/
abbrev Scanner (α : Type) : Type :=
  List Char → Option (α × List Char)

/-! ## Gaps, comments and line ends -/

def isGap (c : Char) : Bool :=
  c = ' ' || c = '\t'

/-- May stand within a line. -/
def isPlain (c : Char) : Bool :=
  c = '\t' || (0x20 ≤ c.toNat && c.toNat ≠ 0x7F)

def dropGap (cs : List Char) : List Char :=
  cs.dropWhile isGap

/-- What follows a line end. -/
def newline? : List Char → Option (List Char)
  | '\n' :: rest => some rest
  | '\r' :: '\n' :: rest => some rest
  | _ => none

/-- What follows the end of the line or of the text. -/
def endLine? : List Char → Option (List Char)
  | [] => some []
  | cs => newline? cs

/-- What follows a comment, if there is one. -/
def dropComment : List Char → List Char
  | '#' :: rest => rest.dropWhile isPlain
  | cs => cs

/-- The next line, when nothing but a comment is left on this one. -/
def nextLine? (cs : List Char) : Option (List Char) :=
  endLine? (dropComment (dropGap cs))

/-- What follows gaps, line ends and comments that end with their lines. -/
def fill? : (inComment : Bool) → List Char → Option (List Char)
  | true, [] => none
  | _, '\n' :: rest => fill? false rest
  | _, '\r' :: '\n' :: rest => fill? false rest
  | true, c :: rest => if isPlain c then fill? true rest else none
  | false, '#' :: rest => fill? true rest
  | false, c :: rest => if isGap c then fill? false rest else some (c :: rest)
  | false, [] => some []

/-! ## Strings -/

/-- The character that a letter after a backslash stands for. -/
def unescape? (c : Char) : Option Char :=
  if c = '"' then some '"'
  else if c = '\\' then some '\\'
  else if c = 'b' then some '\x08'
  else if c = 't' then some '\t'
  else if c = 'n' then some '\n'
  else if c = 'f' then some '\x0c'
  else if c = 'r' then some '\r'
  else none

/-- The rest of a basic string. -/
def scanBasic? : Scanner (List Char)
  | [] => none
  | '"' :: rest => some ([], rest)
  | '\\' :: 'u' :: a :: b :: c :: d :: rest => do
    let x ← Text.hexChar? [a, b, c, d]
    let (xs, rest) ← scanBasic? rest
    some (x :: xs, rest)
  | '\\' :: 'U' :: a :: b :: c :: d :: e :: f :: g :: h :: rest => do
    let x ← Text.hexChar? [a, b, c, d, e, f, g, h]
    let (xs, rest) ← scanBasic? rest
    some (x :: xs, rest)
  | '\\' :: e :: rest => do
    let x ← unescape? e
    let (xs, rest) ← scanBasic? rest
    some (x :: xs, rest)
  | c :: rest =>
    if isPlain c then do
      let (xs, rest) ← scanBasic? rest
      some (c :: xs, rest)
    else none

/-- Nothing but a gap is left on the line. -/
def endsLine (cs : List Char) : Bool :=
  (newline? (dropGap cs)).isSome

/-- The rest of a basic string of several lines. While `joining`, after a backslash at the end of a
line, gaps and line ends are left out. Up to two quotation marks may stand before the closing
three. -/
def scanBasicLines? : (joining : Bool) → Scanner (List Char)
  | _, [] => none
  | true, ' ' :: rest => scanBasicLines? true rest
  | true, '\t' :: rest => scanBasicLines? true rest
  | true, '\n' :: rest => scanBasicLines? true rest
  | true, '\r' :: '\n' :: rest => scanBasicLines? true rest
  | _, '"' :: '"' :: '"' :: '"' :: '"' :: rest => some (['"', '"'], rest)
  | _, '"' :: '"' :: '"' :: '"' :: rest => some (['"'], rest)
  | _, '"' :: '"' :: '"' :: rest => some ([], rest)
  | _, '\\' :: 'u' :: a :: b :: c :: d :: rest => do
    let x ← Text.hexChar? [a, b, c, d]
    let (xs, rest) ← scanBasicLines? false rest
    some (x :: xs, rest)
  | _, '\\' :: 'U' :: a :: b :: c :: d :: e :: f :: g :: h :: rest => do
    let x ← Text.hexChar? [a, b, c, d, e, f, g, h]
    let (xs, rest) ← scanBasicLines? false rest
    some (x :: xs, rest)
  | _, '\\' :: e :: rest =>
    if endsLine (e :: rest) then scanBasicLines? true (e :: rest)
    else do
      let x ← unescape? e
      let (xs, rest) ← scanBasicLines? false rest
      some (x :: xs, rest)
  | _, '\n' :: rest => do
    let (xs, rest) ← scanBasicLines? false rest
    some ('\n' :: xs, rest)
  | _, '\r' :: '\n' :: rest => do
    let (xs, rest) ← scanBasicLines? false rest
    some ('\n' :: xs, rest)
  | _, c :: rest =>
    if isPlain c then do
      let (xs, rest) ← scanBasicLines? false rest
      some (c :: xs, rest)
    else none

/-- The rest of a literal string. -/
def scanLiteral? : Scanner (List Char)
  | [] => none
  | '\x27' :: rest => some ([], rest)
  | c :: rest =>
    if isPlain c then do
      let (xs, rest) ← scanLiteral? rest
      some (c :: xs, rest)
    else none

/-- The rest of a literal string of several lines. Up to two apostrophes may stand before the
closing three. -/
def scanLiteralLines? : Scanner (List Char)
  | [] => none
  | '\x27' :: '\x27' :: '\x27' :: '\x27' :: '\x27' :: rest => some (['\x27', '\x27'], rest)
  | '\x27' :: '\x27' :: '\x27' :: '\x27' :: rest => some (['\x27'], rest)
  | '\x27' :: '\x27' :: '\x27' :: rest => some ([], rest)
  | '\n' :: rest => do
    let (xs, rest) ← scanLiteralLines? rest
    some ('\n' :: xs, rest)
  | '\r' :: '\n' :: rest => do
    let (xs, rest) ← scanLiteralLines? rest
    some ('\n' :: xs, rest)
  | c :: rest =>
    if isPlain c then do
      let (xs, rest) ← scanLiteralLines? rest
      some (c :: xs, rest)
    else none

/-- A line end right after the opening of a string of several lines is left out. -/
def dropNewline (cs : List Char) : List Char :=
  (newline? cs).getD cs

/-- A string of any kind. -/
def scanString? : Scanner (List Char)
  | '"' :: '"' :: '"' :: rest => scanBasicLines? false (dropNewline rest)
  | '"' :: rest => scanBasic? rest
  | '\x27' :: '\x27' :: '\x27' :: rest => scanLiteralLines? (dropNewline rest)
  | '\x27' :: rest => scanLiteral? rest
  | _ => none

/-- A character of a basic string. -/
def escapeChar (c : Char) : List Char :=
  if c = '"' then ['\\', '"']
  else if c = '\\' then ['\\', '\\']
  else if c = '\x08' then ['\\', 'b']
  else if c = '\t' then ['\\', 't']
  else if c = '\n' then ['\\', 'n']
  else if c = '\x0c' then ['\\', 'f']
  else if c = '\r' then ['\\', 'r']
  else if c.toNat < 0x20 || c.toNat = 0x7F then
    ['\\', 'u', '0', '0', (c.toNat / 16).digitChar, (c.toNat % 16).digitChar]
  else [c]

/-- A basic string. -/
def basic (s : String) : List Char :=
  '"' :: s.toList.flatMap escapeChar ++ ['"']

/-! ## Keys -/

/-- May stand in a key without quotation marks. -/
def isBare (c : Char) : Bool :=
  c.isAlphanum || c = '_' || c = '-'

/-- A part of a key. -/
def scanName? : Scanner String
  | '"' :: rest => (scanBasic? rest).map fun (xs, rest) => (String.ofList xs, rest)
  | '\x27' :: rest => (scanLiteral? rest).map fun (xs, rest) => (String.ofList xs, rest)
  | cs =>
    match cs.takeWhile isBare with
    | [] => none
    | name => some (String.ofList name, cs.dropWhile isBare)

/-- A key of at most `parts` parts with dots between, and the gaps around it. -/
def scanKey? : (parts : Nat) → Scanner Key
  | 0, _ => none
  | parts + 1, cs => do
    let (name, rest) ← scanName? (dropGap cs)
    match dropGap rest with
    | '.' :: rest =>
      let (key, rest) ← scanKey? parts rest
      some (⟨name :: key.path, key.name⟩, rest)
    | rest => some (⟨[], name⟩, rest)

end TextAdventure.Toml
