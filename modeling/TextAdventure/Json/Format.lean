import TextAdventure.Json.Fault
import TextAdventure.Json.Skip

/-!
# Formats

A format says how the values of a type are read from tokens and written as tokens. Here are the
formats of numbers, texts, lists and maps; records have a module of their own.
-/

namespace TextAdventure.Json

/-- Reads a value in front of the tokens and leaves the others. -/
abbrev Reader (α : Type) : Type :=
  List Token → Except Fault (α × List Token)

/-- How the values of a type are read and written. -/
structure Format (α : Type) where
  read : Reader α
  write : α → List Token

namespace Format

variable {α β : Type}

/-- Reads a whole text. -/
def parse (format : Format α) (text : String) : Except Fault α := do
  let (a, rest) ← format.read (Token.scan text.toList)
  if rest.isEmpty then .ok a else .error .malformed

/-- The text of a value, without gaps. -/
def print (format : Format α) (a : α) : String :=
  render (format.write a)

/-- The format of another type, given the way there and back. -/
def map (format : Format α) (make : α → β) (back : β → α) : Format β where
  read ts := do
    let (a, rest) ← format.read ts
    .ok (make a, rest)
  write b := format.write (back b)

/-! ## Single tokens -/

/-- Reads an integer of the signed 64-bit range and makes it into a value. -/
def readInteger (make : Int → Option α) : Reader α
  | .number n :: rest =>
    match n.number? with
    | none => .error .malformed
    | some (.integer i) =>
      match make i with
      | none => .error (.misfit (.tooLarge i))
      | some a => .ok (a, rest)
    | some (.floating x) => .error (.misfit (.wrongKind (.floating x) "i64"))
  | ts => .error (mismatch "i64" ts)

def string : Format String where
  read
    | .string s :: rest => .ok (s, rest)
    | ts => .error (mismatch "a string" ts)
  write s := [.string s]

def bool : Format Bool where
  read
    | .bool b :: rest => .ok (b, rest)
    | ts => .error (mismatch "a boolean" ts)
  write b := [.bool b]

/-- A value or `null`. -/
def option (format : Format α) : Format (Option α) where
  read
    | .null :: rest => .ok (none, rest)
    | ts => do
      let (a, rest) ← format.read ts
      .ok (some a, rest)
  write
    | none => [.null]
    | some a => format.write a

/-! ## Lists -/

/-- Takes the token `t` away. -/
def expect (t : Token) : List Token → Except Fault (List Token)
  | [] => .error .malformed
  | t' :: ts => if t' = t then .ok ts else .error .malformed

/-- Goes to the next element of an array: past the comma in front of it, unless it is the first.
The answer is whether there is one. -/
def nextElement (first : Bool) : Reader Bool
  | [] => .error .malformed
  | .closeBracket :: ts => .ok (false, .closeBracket :: ts)
  | t :: ts =>
    if first then .ok (true, t :: ts)
    else if t = .comma then
      match ts with
      | .closeBracket :: _ => .error .malformed
      | _ => .ok (true, ts)
    else .error .malformed

/-- The elements up to the end of an array. Each takes up at least one token of the `fuel`. -/
def readElements (read : Reader α) : (fuel : Nat) → (first : Bool) → Reader (List α)
  | 0, _, _ => .error .malformed
  | fuel + 1, first, ts => do
    let (more, ts) ← nextElement first ts
    if more then
      let (a, ts) ← read ts
      let (as, ts) ← readElements read fuel false ts
      .ok (a :: as, ts)
    else .ok ([], ts)

/-- What is written for each part, with commas between. -/
def separated : List (List Token) → List Token
  | [] => []
  | [part] => part
  | part :: rest => part ++ .comma :: separated rest

def list (format : Format α) : Format (List α) where
  read
    | .openBracket :: ts => do
      let (as, ts) ← readElements format.read (ts.length + 1) true ts
      let ts ← expect .closeBracket ts
      .ok (as, ts)
    | ts => .error (mismatch "a sequence" ts)
  write as := .openBracket :: separated (as.map format.write) ++ [.closeBracket]

/-! ## Maps -/

/-- Goes to the next key of an object, past the comma in front of it, unless it is the first, and
reads it. Nothing when there is none. -/
def nextKey (first : Bool) : Reader (Option String)
  | .closeBrace :: ts => .ok (none, .closeBrace :: ts)
  | .string key :: ts => if first then .ok (some key, ts) else .error .malformed
  | .comma :: .string key :: ts => if first then .error .malformed else .ok (some key, ts)
  | _ => .error .malformed

/-- The entries up to the end of an object. Each takes up at least one token of the `fuel`. -/
def readEntries (read : Reader α) : (fuel : Nat) → (first : Bool) → Reader (List (String × α))
  | 0, _, _ => .error .malformed
  | fuel + 1, first, ts => do
    let (key?, ts) ← nextKey first ts
    match key? with
    | none => .ok ([], ts)
    | some key =>
      let ts ← expect .colon ts
      let (a, ts) ← read ts
      let (entries, ts) ← readEntries read fuel false ts
      .ok ((key, a) :: entries, ts)

/-- An entry of an object. -/
def writeEntry (write : α → List Token) (entry : String × α) : List Token :=
  .string entry.1 :: .colon :: write entry.2

/-- The entries of an object in order; `expected` is what a message calls the map. -/
def entries (format : Format α) (expected : String) : Format (List (String × α)) where
  read
    | .openBrace :: ts => do
      let (as, ts) ← readEntries format.read (ts.length + 1) true ts
      let ts ← expect .closeBrace ts
      .ok (as, ts)
    | ts => .error (mismatch expected ts)
  write as := .openBrace :: separated (as.map (writeEntry format.write)) ++ [.closeBrace]

end Format

end TextAdventure.Json
