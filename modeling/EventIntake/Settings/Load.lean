import EventIntake.Settings.Document
import EventIntake.Settings.Options
import EventIntake.Settings.Validation

/-!
# Loading settings

The document is read if there is one, the environment is laid over it, and the result is judged.
The first of these that fails says why there are no settings.
-/

namespace EventIntake

inductive LoadError where
  | unreadable (error : FileError)
  | unfit (path : String)
  | environment (error : EnvironmentError)
  | invalid (violations : List Violation)
  deriving DecidableEq, Repr

def LoadError.message : LoadError → String
  | unreadable e => e.message
  | unfit path => "failed to parse " ++ path
  | environment e => e.message
  | invalid vs => "validation failed: " ++ String.intercalate ", " (vs.map Violation.message)

namespace Settings

/-- The settings of a document at a path, or the defaults. -/
def ofFile (files : Files.Tree) : Option String → Except LoadError Settings
  | none => .ok {}
  | some path =>
    match files.readText path with
    | .error reason => .error (.unreadable ⟨path, reason⟩)
    | .ok text =>
      match ofDocument? text with
      | some s => .ok s
      | none => .error (.unfit path)

def load (files : Files.Tree) (path : Option String) (env : Environment) :
    Except LoadError Settings :=
  match ofFile files path with
  | .error e => .error e
  | .ok s =>
    match s.overlay env with
    | (_, some e) => .error (.environment e)
    | (s, none) => if s.isValid then .ok s else .error (.invalid s.violations)

end Settings

end EventIntake
