import TextAdventure.Alias
import TextAdventure.Files
import TextAdventure.Toml.Document

/-!
# Loading alias tables

A table of aliases is written in TOML as the array `alias`, in which each alias is a table with the
keys `phrase` and `command` or an array that begins with the two. Other keys mean nothing. No phrase
may be empty.
-/

namespace TextAdventure

namespace Alias

/-- The alias of a table. -/
def ofEntries? (entries : Toml.Entries) : Option Alias :=
  match entries.lookup "phrase", entries.lookup "command" with
  | some (.string phrase), some (.string command) => some ⟨phrase, command⟩
  | _, _ => none

/-- The alias of an element of an array. -/
def ofValue? : Toml.Value → Option Alias
  | .table _ entries => ofEntries? entries
  | .array (.string phrase :: .string command :: _) => some ⟨phrase, command⟩
  | _ => none

end Alias

namespace AliasTable

/-- Why a table cannot be loaded. -/
inductive LoadError
  | unreadable (path : String) (reason : ReadError)
  | malformed
  /-- The alias at this place, counted from zero, has an empty phrase. -/
  | emptyPhrase (place : Nat)
  deriving DecidableEq, Repr

def LoadError.message : LoadError → String
  | unreadable path reason => s!"failed to read alias table {path}: {reason.message}"
  | malformed => "malformed alias table"
  | emptyPhrase place => s!"alias #{place} has an empty phrase"

/-- The aliases of a document. Without an array there are none. -/
def ofEntries? (entries : Toml.Entries) : Option (List Alias) :=
  match entries.lookup "alias" with
  | none => some []
  | some (.array elements) => elements.mapM Alias.ofValue?
  | some (.tables earlier last) => (earlier.reverse ++ [last]).mapM Alias.ofEntries?
  | some _ => none

/-- The place of the first empty phrase. -/
def emptyPhrase? (aliases : List Alias) : Option Nat :=
  aliases.findIdx? (·.phrase.isEmpty)

/-- The table that a text describes. -/
def ofText (text : String) : Except LoadError AliasTable :=
  match (Toml.parse? text).bind ofEntries? with
  | none => .error .malformed
  | some aliases =>
    match emptyPhrase? aliases with
    | some place => .error (.emptyPhrase place)
    | none => .ok ⟨aliases⟩

/-- The table that the file at `path` describes. -/
def load (path : String) (reading : Reading) : Except LoadError AliasTable :=
  match textOf reading with
  | .error reason => .error (.unreadable path reason)
  | .ok text => ofText text

end AliasTable

end TextAdventure
