import TextAdventure.Json.Format

/-!
# Records

A record type is written as an object with a key for each field. It is read from an object with its
fields in any order, where fields with a default may be missing and unknown ones are passed over, or
from an array of its fields in their order, where fields with a default may be missing at the end.
-/

namespace TextAdventure.Json

/-- The fields of a record type and how each is read and written. -/
structure Record (α : Type) where
  /-- What messages call the type. -/
  title : String
  Field : Type
  eqField : DecidableEq Field
  /-- The fields in the order in which they are written. -/
  fields : List Field
  complete : ∀ f, f ∈ fields
  key : Field → String
  Value : Field → Type
  format : (f : Field) → Format (Value f)
  /-- The value of a field that is missing. -/
  default? : (f : Field) → Option (Value f)
  /-- Not written when it has this value. -/
  omits : (f : Field) → Value f → Bool
  make : ((f : Field) → Value f) → α
  get : α → (f : Field) → Value f
  nodup : fields.Nodup
  key_injective : ∀ f g, key f = key g → f = g
  default?_of_omits : ∀ f v, omits f v = true → default? f = some v
  make_get : ∀ a, make (get a) = a

namespace Record

variable {α : Type} (R : Record α)

instance : DecidableEq R.Field :=
  R.eqField

/-- The values of the fields that have been read. -/
abbrev Partial : Type :=
  (f : R.Field) → Option (R.Value f)

variable {R}

/-- Nothing has been read. -/
def Partial.blank : R.Partial :=
  fun _ => none

/-- One more field has been read. -/
def Partial.set (p : R.Partial) (f : R.Field) (v : R.Value f) : R.Partial :=
  fun g => if h : g = f then some (h ▸ v) else p g

/-- The value read for a field, or its default. -/
def Partial.value? (p : R.Partial) (f : R.Field) : Option (R.Value f) :=
  p f <|> R.default? f

/-- The record of the values that have been read; the first field without a value is missing. -/
def Partial.finish (p : R.Partial) : Except Fault α :=
  match h : R.fields.find? fun f => (p.value? f).isNone with
  | some f => .error (.misfit (.missingField (R.key f)))
  | none => .ok (R.make fun f => (p.value? f).get (by
      have := List.find?_eq_none.1 h f (R.complete f)
      simpa [Option.isSome_iff_ne_none] using this))

variable (R)

/-- The field with this key. -/
def field? (key : String) : Option R.Field :=
  R.fields.find? (R.key · = key)

/-- Reads the members of an object up to its end. Each takes up at least one token of the `fuel`. -/
def readMembers : (fuel : Nat) → (first : Bool) → R.Partial → Reader R.Partial
  | 0, _, _, _ => .error .malformed
  | fuel + 1, first, p, ts => do
    let (key?, ts) ← Format.nextKey first ts
    match key? with
    | none => .ok (p, ts)
    | some key =>
      match R.field? key with
      | none =>
        let ts ← Format.expect .colon ts
        match skip? ts with
        | none => .error .malformed
        | some ts => readMembers fuel false p ts
      | some f =>
        if (p f).isSome then .error (.misfit (.duplicateField key))
        else
          let ts ← Format.expect .colon ts
          let (v, ts) ← (R.format f).read ts
          readMembers fuel false (p.set f v) ts

/-- Reads the fields `fs`, of which the first is the `index`th, from an array up to its end. -/
def readInOrder : (index : Nat) → (fs : List R.Field) → R.Partial → Reader R.Partial
  | _, [], p, ts => .ok (p, ts)
  | index, f :: fs, p, ts => do
    let (more, ts) ← Format.nextElement (index == 0) ts
    if more then
      let (v, ts) ← (R.format f).read ts
      readInOrder (index + 1) fs (p.set f v) ts
    else if (R.default? f).isSome then readInOrder (index + 1) fs p ts
    else .error (.misfit (.tooShort index R.title R.fields.length))

def read : Reader α
  | .openBrace :: ts => do
    let (p, ts) ← R.readMembers (ts.length + 1) true .blank ts
    let a ← p.finish
    let ts ← Format.expect .closeBrace ts
    .ok (a, ts)
  | .openBracket :: ts => do
    let (p, ts) ← R.readInOrder 0 R.fields .blank ts
    let a ← p.finish
    let ts ← Format.expect .closeBracket ts
    .ok (a, ts)
  | ts => .error (mismatch s!"struct {R.title}" ts)

/-- What is written for a field. -/
def writeField (a : α) (f : R.Field) : List Token :=
  .string (R.key f) :: .colon :: (R.format f).write (R.get a f)

def write (a : α) : List Token :=
  let written := R.fields.filter fun f => !R.omits f (R.get a f)
  .openBrace :: Format.separated (written.map (R.writeField a)) ++ [.closeBrace]

/-- The format of the record type. -/
def toFormat : Format α where
  read := R.read
  write := R.write

end Record

end TextAdventure.Json
