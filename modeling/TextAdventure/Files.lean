/-!
# Files

What reading a file may come to, and the text of a file that has been read.
-/

namespace TextAdventure

/-- Why a file cannot be read. -/
inductive ReadError
  | notFound
  | notDirectory
  | isDirectory
  /-- The name has a character that no name may have. -/
  | badName
  | nameTooLong
  /-- The content is not UTF-8. -/
  | notText
  | other (reason : String)
  deriving DecidableEq, Repr

def ReadError.message : ReadError → String
  | notFound => "No such file or directory (os error 2)"
  | notDirectory => "Not a directory (os error 20)"
  | isDirectory => "Is a directory (os error 21)"
  | badName => "file name contained an unexpected NUL byte"
  | nameTooLong => "File name too long (os error 36)"
  | notText => "stream did not contain valid UTF-8"
  | other reason => reason

/-- The outcome of reading a file. -/
abbrev Reading : Type :=
  Except ReadError ByteArray

/-- The text of a file. -/
def textOf (reading : Reading) : Except ReadError String :=
  match reading with
  | .error e => .error e
  | .ok bytes =>
    match String.fromUTF8? bytes with
    | none => .error .notText
    | some text => .ok text

/-- A text that is written to a file is the text of the file. -/
theorem textOf_toUTF8 (text : String) : textOf (.ok text.toUTF8) = .ok text := by
  have valid : String.fromUTF8? text.toUTF8 = some text := dif_pos text.isValidUTF8
  rw [textOf, valid]

end TextAdventure
