import TextAdventure.Toml.Value

/-!
# TOML tables

The lines of a document build one table. No key is given a value twice, and no table is defined
twice; a header may come after the headers of tables inside its table, and dotted keys may add only
to tables that dotted keys have made.
-/

namespace TextAdventure.Toml

namespace Entries

/-- The entries with the value under `key` replaced by what `f` makes of it. -/
def alter (key : String) (f : Option Value → Option Value) : Entries → Option Entries
  | [] => (f none).map fun v => [(key, v)]
  | (k, v) :: rest =>
    if k = key then (f (some v)).map fun v => (k, v) :: rest
    else (alter key f rest).map ((k, v) :: ·)

/-- The entries with a new key. -/
def add (key : String) (value : Value) : Entries → Option Entries :=
  alter key fun
    | none => some value
    | some _ => none

/-- A table that a path goes through, by dotted keys or by a header, may be one of this origin. -/
def passable (dotted : Bool) : Origin → Bool
  | .inline => false
  | .header => !dotted
  | .implied | .dotted => true

/-- The entries with those of the table that `path` leads to replaced by what `f` makes of them and
of the table's origin. Missing tables are made; an array of tables is entered at its last one. -/
def within (dotted : Bool) (f : Origin → Entries → Option Entries) :
    List String → Origin → Entries → Option Entries
  | [], origin, entries => f origin entries
  | key :: path, _, entries =>
    alter key
      (fun
        | none =>
          let origin := if dotted then .dotted else .implied
          (within dotted f path origin []).map (.table origin)
        | some (.table origin entries) =>
          if passable dotted origin then
            (within dotted f path origin entries).map (.table origin)
          else none
        | some (.tables earlier last) =>
          (within dotted f path .header last).map (.tables earlier)
        | some _ => none)
      entries

/-- The entries with a value under a key that may be dotted. -/
def addPair (key : Key) (value : Value) (entries : Entries) : Option Entries :=
  within true
    (fun origin entries =>
      if key.path = [] ∨ origin = .dotted then entries.add key.name value else none)
    key.path .header entries

/-- The table of pairs between braces. -/
def ofPairs (pairs : List (Key × Value)) : Option Entries :=
  pairs.foldlM (fun entries (key, value) => entries.addPair key value) []

/-- The entries with a table under a key, given that only tables inside it came before. -/
def openTable (key : String) : Entries → Option Entries :=
  alter key fun
    | none => some (.table .header [])
    | some (.table .implied entries) => some (.table .header entries)
    | some _ => none

/-- The entries with one more table in the array of tables under a key. -/
def openElement (key : String) : Entries → Option Entries :=
  alter key fun
    | none => some (.tables [] [])
    | some (.tables earlier last) => some (.tables (last :: earlier) [])
    | some _ => none

end Entries

/-- A document as far as it has been read: its entries, and the path of the table that the last
header opened. -/
structure Document where
  root : Entries
  current : List String
  deriving Repr

namespace Document

def empty : Document :=
  ⟨[], []⟩

/-- The document with one more line. -/
def step (d : Document) : Statement → Option Document
  | .pair key value =>
    (d.root.within false (fun _ => Entries.addPair key value) d.current .header).map fun root =>
      { d with root }
  | .header key =>
    (d.root.within false (fun _ => Entries.openTable key.name) key.path .header).map fun root =>
      ⟨root, key.names⟩
  | .arrayHeader key =>
    (d.root.within false (fun _ => Entries.openElement key.name) key.path .header).map fun root =>
      ⟨root, key.names⟩

/-- The entries that the lines build. -/
def build (lines : List Statement) : Option Entries :=
  (lines.foldlM step empty).map Document.root

end Document

end TextAdventure.Toml
