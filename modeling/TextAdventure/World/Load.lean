import TextAdventure.Files
import TextAdventure.World.Format

/-!
# Loading worlds

A world is loaded from the text of its document, which has to be well formed, fit the type and be
free of faults (`World.ofText_eq_ok_iff`, `World.ofText_eq_error_iff`).
-/

namespace TextAdventure.World

/-- Why a world cannot be loaded. -/
inductive LoadError
  | unreadable (path : String) (reason : ReadError)
  | unfit (fault : Json.Fault)
  | inconsistent (fault : Document.Fault)

def LoadError.message : LoadError → String
  | unreadable path reason => s!"failed to read world description {path}: {reason.message}"
  | unfit .malformed => "malformed world description"
  | unfit (.misfit m) => s!"malformed world description: {m.message}"
  | inconsistent fault => fault.message

/-- The world that a text describes. -/
def ofText (text : String) : Except LoadError World :=
  match Document.format.parse text with
  | .error fault => .error (.unfit fault)
  | .ok document =>
    match ofDocument document with
    | .error fault => .error (.inconsistent fault)
    | .ok world => .ok world

/-- The world that the file at `path` describes. -/
def load (path : String) (reading : Reading) : Except LoadError World :=
  match textOf reading with
  | .error reason => .error (.unreadable path reason)
  | .ok text => ofText text

/-! ## What comes of it -/

variable {text path : String} {reading : Reading} {w : World} {e : LoadError}

/-- A world is loaded from the text of a document that makes it. -/
theorem ofText_eq_ok_iff :
    ofText text = .ok w ↔ ∃ d, Document.format.parse text = .ok d ∧ ofDocument d = .ok w := by
  unfold ofText
  cases Document.format.parse text with
  | error fault => simp
  | ok d => cases hd : ofDocument d <;> simp [hd]

/-- A text that no world is loaded from is the text of no document, or of one with a fault. -/
theorem ofText_eq_error_iff :
    ofText text = .error e ↔
      (∃ fault, Document.format.parse text = .error fault ∧ e = .unfit fault) ∨
      ∃ d fault, Document.format.parse text = .ok d ∧ ofDocument d = .error fault ∧
        e = .inconsistent fault := by
  unfold ofText
  cases Document.format.parse text with
  | error fault => simp [eq_comm]
  | ok d => cases hd : ofDocument d <;> simp [hd, eq_comm]

theorem load_eq_ok_iff :
    load path reading = .ok w ↔ ∃ text, textOf reading = .ok text ∧ ofText text = .ok w := by
  unfold load
  cases textOf reading <;> simp

/-- A file that no world is loaded from cannot be read, or its text is to blame. -/
theorem load_eq_error_iff :
    load path reading = .error e ↔
      (∃ reason, textOf reading = .error reason ∧ e = .unreadable path reason) ∨
      ∃ text, textOf reading = .ok text ∧ ofText text = .error e := by
  unfold load
  cases textOf reading <;> simp [eq_comm]

end TextAdventure.World
