import TextAdventure.CommandLine.Run

/-!
# The program

Reads the files that the arguments name, and passes lines and answers between the input, the console
and the output.
-/

namespace TextAdventure

/-- Reads a file. -/
def readFile (path : String) : IO Reading := do
  try
    return .ok (← IO.FS.readBinFile path)
  catch
    | .noFileOrDirectory .. => return .error .notFound
    | e => return .error (.other (toString e))

/-- Reads the files that the options name. -/
def readFiles (o : CommandLine.Options) : IO (String → Reading) := do
  let mut files : List (String × Reading) := []
  for path in o.world.toList ++ o.aliases.toList do
    files := (path, ← readFile path) :: files
  let found := files
  return fun path => (found.lookup path).getD (.error .notFound)

/-- Reads bytes up to and with the next newline. -/
partial def readLine (input : IO.FS.Stream) (line : ByteArray) : IO ByteArray := do
  let bytes ← input.read 1
  if bytes.isEmpty || bytes.data.contains 10 then return line ++ bytes
  else readLine input (line ++ bytes)

/-- Shows what has been written after the first `shown` bytes. -/
def showRest (output : IO.FS.Stream) (written : ByteArray) (shown : Nat) : IO Unit := do
  output.write (written.extract shown written.size)
  output.flush

/-- Passes lines to the console until the program ends. It tells of a failure, if there is one, and
gives the exit code. -/
partial def converse (input output : IO.FS.Stream) (shown : Nat) (stage : CommandLine.Stage) :
    IO UInt32 := do
  showRest output stage.exit.output shown
  match stage with
  | .ended exit =>
    if let some failure := exit.failure then
      IO.eprint (CommandLine.failureText failure)
    return exit.code.toUInt32
  | .awaits _ =>
    let line ← readLine input .empty
    let next := if line.isEmpty then .ended stage.exit else stage.next line.data.toList
    converse input output stage.exit.output.size next

end TextAdventure

open TextAdventure in
def main (args : List String) : IO UInt32 := do
  let request := CommandLine.Request.ofArgs args
  if request = .misuse then
    IO.eprint CommandLine.helpText
  let stage := CommandLine.Stage.ofRequest request (← readFiles request.options)
  if let .awaits c := stage then
    if 1 ≤ request.options.verbosity then
      IO.eprintln s!"session started in a world of {c.session.world.size} rooms"
  converse (← IO.getStdin) (← IO.getStdout) 0 stage
