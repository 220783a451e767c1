import TextAdventure.Session

/-!
# The console

The console shows the starting room, and then, turn by turn, asks for a command, hears what the line
editor has to say, and shows the answer. It ends when the player quits or interrupts, when the input
ends, and when the editor or the output fails.
-/

namespace TextAdventure

/-- What a line editor has to say when it is asked for a line. -/
inductive Event
  | line (text : String)
  | interrupt
  | endOfInput
  | failure (reason : String)
  deriving DecidableEq, Repr

/-! ## Output -/

/-- Output that may accept only so many bytes. -/
structure Sink where
  written : ByteArray
  limit : Option Nat

namespace Sink

/-- An output to which nothing has been written. -/
def empty (limit : Option Nat) : Sink :=
  ⟨.empty, limit⟩

/-- Writes a text. Of one that does not fit the sink keeps what fits, and the answer is `false`. -/
def write (s : Sink) (text : String) : Bool × Sink :=
  let bytes := text.toUTF8
  match s.limit with
  | none => (true, { s with written := s.written ++ bytes })
  | some limit =>
    if s.written.size + bytes.size ≤ limit then (true, { s with written := s.written ++ bytes })
    else (false, { s with written := s.written ++ bytes.extract 0 (limit - s.written.size) })

end Sink

/-! ## The loop -/

/-- How the loop has ended. -/
inductive Ending
  | quiet
  | editorFailed (reason : String)
  | outputFailed
  deriving DecidableEq, Repr

/-- The message of an ending that is a failure. -/
def Ending.message? : Ending → Option String
  | quiet => none
  | editorFailed reason => some s!"line editor failed: {reason}"
  | outputFailed => some "failed to write output: sink is full"

/-- The loop between two turns. -/
structure Console where
  session : Session
  sink : Sink
  /-- The editor writes its prompts to the output. -/
  echoes : Bool
  /-- The prompts of all reads so far. -/
  prompts : List String
  /-- The lines heard so far. -/
  history : List String

/-- The loop waits for the editor, or it has ended. -/
inductive Progress
  | awaits (c : Console)
  | ended (ending : Ending) (c : Console)

namespace Console

/-- The question in front of every turn. -/
def question : String :=
  "What would you like to do?"

/-- What the editor shows in front of a line. -/
def prompt : String :=
  "> "

/-- Writes a text and goes on, if the output accepts it. -/
def write (c : Console) (text : String) (next : Console → Progress) : Progress :=
  match c.sink.write text with
  | (true, sink) => next { c with sink }
  | (false, sink) => .ended .outputFailed { c with sink }

/-- Writes lines and goes on, if the output accepts them. -/
def writeLines (c : Console) (lines : List String) (next : Console → Progress) : Progress :=
  match lines with
  | [] => next c
  | line :: lines => c.write (line ++ "\n") fun c => c.writeLines lines next

/-- Asks the editor for a line. -/
def ask (c : Console) : Progress :=
  c.writeLines [question] fun c =>
    let c := { c with prompts := c.prompts ++ [prompt] }
    if c.echoes then c.write prompt .awaits else .awaits c

/-- Hears the editor, and asks again unless the loop ends. -/
def hear (c : Console) : Event → Progress
  | .interrupt => .ended .quiet c
  | .endOfInput => .ended .quiet c
  | .failure reason => .ended (.editorFailed reason) c
  | .line line =>
    let (response, session) := c.session.handle line
    let c := { c with session, history := c.history ++ [line] }
    c.writeLines response.lines fun c =>
      match response.outcome with
      | .quit => .ended .quiet c
      | .goesOn => c.ask

/-- Shows the starting room and asks for the first command. -/
def start (session : Session) (echoes : Bool) (sink : Sink) : Progress :=
  let c : Console := ⟨session, sink, echoes, [], []⟩
  c.writeLines [session.intro] ask

end Console

/-- Hears events until the loop ends; after the last of them the input ends. -/
def Progress.run : Progress → List Event → Ending × Console
  | .ended ending c, _ => (ending, c)
  | .awaits c, [] => (.quiet, c)
  | .awaits c, event :: events => run (c.hear event) events

/-- Plays a session with the given events. -/
def Console.play (session : Session) (echoes : Bool) (limit : Option Nat) (events : List Event) :
    Ending × Console :=
  (start session echoes (.empty limit)).run events

end TextAdventure
