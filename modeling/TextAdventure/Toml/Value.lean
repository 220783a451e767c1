/-!
# TOML values

The values of a TOML document. A table remembers how it came about, since that decides whether later
lines may add to it. The values of numbers with a fraction and of dates are not kept.
-/

namespace TextAdventure.Toml

/-- How a table came about. -/
inductive Origin
  /-- By a header of its own. -/
  | header
  /-- By the header of a table inside it. -/
  | implied
  /-- By a dotted key. -/
  | dotted
  /-- Between braces. -/
  | inline
  deriving DecidableEq, Repr

inductive Value
  | string (s : String)
  | integer (n : Int)
  | float
  | boolean (b : Bool)
  | date
  | array (elements : List Value)
  | table (origin : Origin) (entries : List (String × Value))
  /-- An array of tables with headers of their own, the ones before the last from back to front. -/
  | tables (earlier : List (List (String × Value))) (last : List (String × Value))
  deriving Repr

/-- The keys of a table and their values. -/
abbrev Entries : Type :=
  List (String × Value)

/-- A key, dotted or not: the tables it goes through and the name inside the last of them. -/
structure Key where
  path : List String
  name : String
  deriving DecidableEq, Repr

/-- All names of the key, in order. -/
def Key.names (key : Key) : List String :=
  key.path ++ [key.name]

/-- A line of a document that says something. -/
inductive Statement
  | pair (key : Key) (value : Value)
  | header (key : Key)
  | arrayHeader (key : Key)
  deriving Repr

end TextAdventure.Toml
