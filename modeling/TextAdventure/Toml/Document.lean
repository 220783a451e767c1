import TextAdventure.Toml.Number
import TextAdventure.Toml.Table

/-!
# TOML documents

Values with brackets, the lines of a document, and the document as a whole. Brackets and dotted keys
go less than eighty levels deep.
-/

namespace TextAdventure.Toml

/-- The levels that brackets and dotted keys may have. -/
def depthLimit : Nat :=
  79

/-! ## Values -/

/-- The elements up to the end of an array. A comma may follow the last. -/
def scanElements? (element : Scanner Value) : (fuel : Nat) → Scanner (List Value)
  | 0, _ => none
  | fuel + 1, cs => do
    match ← fill? false cs with
    | ']' :: rest => some ([], rest)
    | cs =>
      let (value, cs) ← element cs
      match ← fill? false cs with
      | ',' :: rest =>
        let (values, rest) ← scanElements? element fuel rest
        some (value :: values, rest)
      | ']' :: rest => some ([value], rest)
      | _ => none

/-- A key, an equals sign and a value. -/
def scanPair? (value : Scanner Value) : Scanner (Key × Value) := fun cs => do
  let (key, cs) ← scanKey? depthLimit cs
  match cs with
  | '=' :: rest =>
    let (v, rest) ← value (dropGap rest)
    some ((key, v), rest)
  | _ => none

/-- The pairs up to the end of a table between braces. -/
def scanPairs? (value : Scanner Value) : (fuel : Nat) → Scanner (List (Key × Value))
  | 0, _ => none
  | fuel + 1, cs => do
    let (pair, cs) ← scanPair? value cs
    match dropGap cs with
    | ',' :: rest =>
      let (pairs, rest) ← scanPairs? value fuel rest
      some (pair :: pairs, rest)
    | '\x7d' :: rest => some ([pair], rest)
    | _ => none

/-- The rest of a table between braces. -/
def scanInline? (value : Scanner Value) : Scanner Value := fun cs => do
  let (pairs, rest) ← match dropGap cs with
    | '\x7d' :: rest => some ([], rest)
    | cs => scanPairs? value (cs.length + 1) cs
  let entries ← Entries.ofPairs pairs
  some (.table .inline entries, rest)

/-- A value without brackets. -/
def scanFlat? : Scanner Value
  | 't' :: 'r' :: 'u' :: 'e' :: rest => some (.boolean true, rest)
  | 'f' :: 'a' :: 'l' :: 's' :: 'e' :: rest => some (.boolean false, rest)
  | cs =>
    ((scanString? cs).map fun (xs, rest) => (.string (String.ofList xs), rest)) <|> scanNumber? cs

/-- A value with brackets of at most `depth` levels. -/
def scanValue? : (depth : Nat) → Scanner Value
  | 0, cs => scanFlat? cs
  | depth + 1, '[' :: rest =>
    (scanElements? (scanValue? depth) (rest.length + 1) rest).map fun (values, rest) =>
      (.array values, rest)
  | depth + 1, '\x7b' :: rest => scanInline? (scanValue? depth) rest
  | _ + 1, cs => scanFlat? cs

/-! ## Lines -/

/-- What a line says, and the next line. Nothing is said by a comment. -/
def scanLine? (cs : List Char) : Option (Option Statement × List Char) :=
  match cs with
  | '[' :: '[' :: rest => do
    let (key, rest) ← scanKey? depthLimit rest
    match rest with
    | ']' :: ']' :: rest => (nextLine? rest).map fun rest => (some (.arrayHeader key), rest)
    | _ => none
  | '[' :: rest => do
    let (key, rest) ← scanKey? depthLimit rest
    match rest with
    | ']' :: rest => (nextLine? rest).map fun rest => (some (.header key), rest)
    | _ => none
  | cs =>
    match nextLine? cs with
    | some rest => some (none, rest)
    | none => do
      let ((key, value), rest) ← scanPair? (scanValue? depthLimit) cs
      (nextLine? rest).map fun rest => (some (.pair key value), rest)

/-- What all lines say. Each takes up at least one character of the `fuel`. -/
def scanLines? : (fuel : Nat) → List Char → Option (List Statement)
  | 0, _ => none
  | fuel + 1, cs =>
    match dropGap cs with
    | [] => some []
    | cs => do
      let (statement?, rest) ← scanLine? cs
      let statements ← scanLines? fuel rest
      some (statement?.toList ++ statements)

/-- What follows a byte order mark, if there is one. -/
def dropMark : List Char → List Char
  | '\ufeff' :: rest => rest
  | cs => cs

/-- The entries of the document that a text is. -/
def parse? (text : String) : Option Entries :=
  let cs := dropMark text.toList
  (scanLines? (cs.length + 1) cs).bind Document.build

end TextAdventure.Toml
