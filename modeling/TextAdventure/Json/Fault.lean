import TextAdventure.Decimal.Shortest
import TextAdventure.Json.Token
import TextAdventure.Text.Quoted

/-!
# What can be wrong with a text

A text either is malformed or holds something that does not fit the type to be read. What comes
first in the text decides.
-/

namespace TextAdventure.Json

/-- What a value turned out to be. -/
inductive Found
  | null
  | bool (b : Bool)
  | integer (n : Int)
  | floating (x : Float)
  | string (s : String)
  | sequence
  | map

/-- Numbers from a hundred-thousandth up to ten thousand million million are written out. -/
def floatStyle : Decimal.Style :=
  ⟨-5, 16⟩

def Found.describe : Found → String
  | null => "null"
  | bool true => "boolean `true`"
  | bool false => "boolean `false`"
  | integer n => s!"integer `{n}`"
  | floating x => s!"floating point `{Decimal.floatText floatStyle x}`"
  | string s => s!"string {Text.quoted s}"
  | sequence => "sequence"
  | map => "map"

/-- Why a value does not fit. -/
inductive Misfit
  /-- A record lacks the field `key`. -/
  | missingField (key : String)
  /-- A record has the field `key` twice. -/
  | duplicateField (key : String)
  /-- A record of `size` fields written as an array ends after `length`. -/
  | tooShort (length : Nat) (record : String) (size : Nat)
  /-- The value is of another kind than the expected one. -/
  | wrongKind (found : Found) (expected : String)
  /-- An integer is above the signed 64-bit range. -/
  | tooLarge (n : Int)

def Misfit.message : Misfit → String
  | missingField key => s!"missing field `{key}`"
  | duplicateField key => s!"duplicate field `{key}`"
  | tooShort length record size =>
    s!"invalid length {length}, expected struct {record} with {size} elements"
  | wrongKind found expected => s!"invalid type: {found.describe}, expected {expected}"
  | tooLarge n => s!"invalid value: {(Found.integer n).describe}, expected i64"

/-- Why a text cannot be read. -/
inductive Fault
  | malformed
  | misfit (m : Misfit)

/-- The fault of a text that goes on with these tokens where `expected` is expected. -/
def mismatch (expected : String) : List Token → Fault
  | .null :: _ => .misfit (.wrongKind .null expected)
  | .bool b :: _ => .misfit (.wrongKind (.bool b) expected)
  | .string s :: _ => .misfit (.wrongKind (.string s) expected)
  | .openBracket :: _ => .misfit (.wrongKind .sequence expected)
  | .openBrace :: _ => .misfit (.wrongKind .map expected)
  | .number n :: _ =>
    match n.number? with
    | none => .malformed
    | some (.integer i) => .misfit (.wrongKind (.integer i) expected)
    | some (.floating x) => .misfit (.wrongKind (.floating x) expected)
  | _ => .malformed

end TextAdventure.Json
