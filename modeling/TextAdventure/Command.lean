import TextAdventure.Text.Blank

/-!
# Commands

A command is told by the words of the input. The words after a verb, with one space between them,
make up a name; a direction is one word.
-/

namespace TextAdventure

open Text (words joinWords)

/-- Verbs that need to be told of what. -/
inductive Verb
  | use | go | get | drop | talk
  deriving DecidableEq, Repr

/-- The question when the verb comes alone. -/
def Verb.prompt : Verb → String
  | use => "What would you like to use?"
  | go => "Where would you like to go?"
  | get => "What would you like to get?"
  | drop => "What would you like to drop?"
  | talk => "Who would you like to talk to?"

inductive Command
  /-- No words at all. -/
  | empty
  | look
  | inventory
  | quit
  | go (direction : String)
  | get (name : String)
  | drop (name : String)
  | use (name : String)
  | talkTo (name : String)
  /-- A verb that lacks what it needs. -/
  | incomplete (verb : Verb)
  /-- The first word is not a verb. -/
  | unknown (word : String)
  deriving DecidableEq, Repr

namespace Command

/-- The command of a verb with a name, given the words after the verb. -/
def named (verb : Verb) (make : String → Command) : List String → Command
  | [] => incomplete verb
  | name => make (joinWords name)

/-- The command that the words of an input tell. -/
def ofWords : List String → Command
  | [] => empty
  | verb :: rest =>
    if verb = "look" then look
    else if verb = "inventory" then inventory
    else if verb = "quit" then quit
    else if verb = "go" then
      match rest with
      | [] => incomplete .go
      | direction :: _ => go direction
    else if verb = "get" then named .get get rest
    else if verb = "drop" then named .drop drop rest
    else if verb = "use" then named .use use rest
    else if verb = "talk" then
      match rest with
      | [] => incomplete .talk
      | word :: name => if word = "to" then named .talk talkTo name else incomplete .talk
    else unknown verb

def parse (input : String) : Command :=
  ofWords (words input)

end Command

end TextAdventure
