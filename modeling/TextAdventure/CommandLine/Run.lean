import TextAdventure.Alias.Load
import TextAdventure.CommandLine.Arguments
import TextAdventure.Console
import TextAdventure.Text.Backspace
import TextAdventure.World.Load
import TextAdventure.World.Sample

/-!
# Running the program

What the program does with its arguments, files and input: it loads what the arguments name and
plays, with the lines of the input, or it writes nothing and fails. A world that does not load is
reported before aliases that do not.
-/

namespace TextAdventure.CommandLine

/-! ## Input -/

/-- The lines of the input, each with its line end. The last may lack one. -/
def splitLines : List UInt8 → List (List UInt8)
  | [] => []
  | b :: bs =>
    if b = 10 then [b] :: splitLines bs
    else
      match splitLines bs with
      | [] => [[b]]
      | line :: lines => (b :: line) :: lines

/-- A line without its line end. A carriage return counts only in front of a newline. -/
def dropLineEnd (line : List Char) : List Char :=
  match line.reverse with
  | '\n' :: '\r' :: cs => cs.reverse
  | '\n' :: cs => cs.reverse
  | _ => line

/-- What reading a line of input comes to; nothing if the line editor breaks down over a backspace
that cannot be carried out. -/
def eventOf? (line : List UInt8) : Option Event :=
  match textOf (.ok ⟨line.toArray⟩) with
  | .error reason => some (.failure reason.message)
  | .ok text =>
    (Text.eraseBackspaces? (dropLineEnd text.toList)).map fun cs => .line (String.ofList cs)

/-! ## Running -/

/-- How the program ends. -/
structure Exit where
  code : Nat
  output : ByteArray
  /-- What has failed, if it is told. -/
  failure : Option String

/-- What is written about a failure. -/
def failureText (failure : String) : String :=
  s!"Error: {failure}\n"

/-- The first line of a text whose lines have ends. -/
def firstLine (text : String) : String :=
  String.ofList (dropLineEnd (text.toList.takeWhile (· ≠ '\n') ++ ['\n']))

/-- The first line of what is written about a failure. A name in it may hold line ends. -/
def Exit.errorLine (exit : Exit) : Option String :=
  exit.failure.map fun failure => firstLine (failureText failure)

/-- The world that the options name. -/
def loadWorld (read : String → Reading) (o : Options) : Except String World :=
  match o.world with
  | none => .ok .sample
  | some path =>
    match World.load path (read path) with
    | .error _ => .error s!"could not load world from {path}"
    | .ok world => .ok world

/-- The aliases that the options name. -/
def loadAliases (read : String → Reading) (o : Options) : Except String AliasTable :=
  match o.aliases with
  | none => .ok .standard
  | some path =>
    match AliasTable.load path (read path) with
    | .error _ => .error s!"could not load aliases from {path}"
    | .ok table => .ok table

/-- The session to be played, or what could not be loaded. -/
def prepare (read : String → Reading) (o : Options) : Except String Session := do
  let world ← loadWorld read o
  let aliases ← loadAliases read o
  .ok (.start world aliases)

/-- The end of a program that has played. -/
def Exit.ofEnding (ending : Ending) (output : ByteArray) : Exit :=
  match ending.message? with
  | none => ⟨0, output, none⟩
  | some failure => ⟨1, output, some failure⟩

/-- The end of a program whose line editor has broken down. -/
def Exit.brokenDown (output : ByteArray) : Exit :=
  ⟨101, output, none⟩

/-- Where a program stands that reads its input line by line. -/
inductive Stage
  | awaits (c : Console)
  | ended (exit : Exit)

namespace Stage

/-- Where the program stands with its console. -/
def ofProgress : Progress → Stage
  | .awaits c => awaits c
  | .ended ending c => ended (.ofEnding ending c.sink.written)

/-- Where the program stands before it reads its input, with `read` for what reading a file comes
to. -/
def ofRequest (request : Request) (read : String → Reading) : Stage :=
  match request with
  | .help => ended ⟨0, helpText.toUTF8, none⟩
  | .version => ended ⟨0, versionText.toUTF8, none⟩
  | .misuse => ended ⟨2, .empty, none⟩
  | .play o =>
    match prepare read o with
    | .error failure => ended ⟨1, .empty, some failure⟩
    | .ok session => ofProgress (Console.start session true (.empty none))

/-- Passes a line of the input to the console, unless the program has ended. -/
def next (stage : Stage) (line : List UInt8) : Stage :=
  match stage with
  | awaits c =>
    match eventOf? line with
    | none => ended (.brokenDown c.sink.written)
    | some event => ofProgress (c.hear event)
  | ended exit => ended exit

/-- The end of the program if its input ends here. -/
def exit : Stage → Exit
  | awaits c => .ofEnding .quiet c.sink.written
  | ended exit => exit

end Stage

/-- Runs the program, with `read` for what reading a file comes to. -/
def run (args : List String) (read : String → Reading) (input : ByteArray) : Exit :=
  let stage := Stage.ofRequest (.ofArgs args) read
  ((splitLines input.data.toList).foldl Stage.next stage).exit

end TextAdventure.CommandLine
