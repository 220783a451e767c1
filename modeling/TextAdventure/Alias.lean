import TextAdventure.Text.Blank

/-!
# Aliases

An alias is a phrase the player may type and the command it stands for. A table rewrites the whole
input when it is a phrase, and else the longest phrase in front of it. Input that already begins
with the command of that phrase is left alone, so that `talk to guard` does not become
`talk to to guard`.
-/

namespace TextAdventure

open Text (isBlank)

structure Alias where
  phrase : String
  command : String
  deriving DecidableEq, Repr

/-- Aliases in the order of their declaration. -/
structure AliasTable where
  aliases : List Alias
  deriving DecidableEq, Repr

namespace AliasTable

instance : Inhabited AliasTable := ⟨⟨[]⟩⟩

/-- The usual synonyms of verbs and short forms of directions. -/
def standard : AliasTable :=
  ⟨[⟨"pick up", "get"⟩, ⟨"inv", "inventory"⟩, ⟨"i", "inventory"⟩, ⟨"move", "go"⟩,
    ⟨"north", "go north"⟩, ⟨"south", "go south"⟩, ⟨"east", "go east"⟩, ⟨"west", "go west"⟩,
    ⟨"up", "go up"⟩, ⟨"down", "go down"⟩, ⟨"n", "go north"⟩, ⟨"s", "go south"⟩,
    ⟨"e", "go east"⟩, ⟨"w", "go west"⟩, ⟨"talk", "talk to"⟩]⟩

def size (t : AliasTable) : Nat :=
  t.aliases.length

def isEmpty (t : AliasTable) : Bool :=
  t.aliases.isEmpty

/-- The first alias whose phrase is `raw`. -/
def named? (t : AliasTable) (raw : String) : Option Alias :=
  t.aliases.find? (·.phrase = raw)

/-- The phrase is not empty and `raw` begins with it. -/
def leads (a : Alias) (raw : String) : Bool :=
  !a.phrase.isEmpty && a.phrase.toList.isPrefixOf raw.toList

/-- The later alias only if its phrase is longer. -/
def longer (best : Option Alias) (a : Alias) : Option Alias :=
  match best with
  | none => some a
  | some b => if b.phrase.length < a.phrase.length then some a else some b

/-- The alias with the longest phrase that leads `raw`; of equal ones the first declared. -/
def longest? (t : AliasTable) (raw : String) : Option Alias :=
  (t.aliases.filter (leads · raw)).foldl longer none

/-- What follows `command` at the start of `raw` is nothing or begins with a blank. -/
def isExpanded (raw command : String) : Bool :=
  command.toList.isPrefixOf raw.toList &&
    match raw.toList.drop command.length with
    | [] => true
    | c :: _ => isBlank c

/-- `raw` with the phrase at its start replaced by the command. -/
def expand (a : Alias) (raw : String) : String :=
  match (raw.toList.drop a.phrase.length).dropWhile isBlank with
  | [] => a.command
  | rest => a.command ++ " " ++ String.ofList rest

/-- The input with its alias, if it has one, written out. -/
def resolve (t : AliasTable) (raw : String) : String :=
  match t.named? raw with
  | some a => a.command
  | none =>
    match t.longest? raw with
    | none => raw
    | some a => if isExpanded raw a.command then raw else expand a raw

end AliasTable

end TextAdventure
