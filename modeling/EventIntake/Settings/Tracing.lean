import EventIntake.Files.Tree
import EventIntake.Number.Decimal
import EventIntake.Text.Blank
import EventIntake.Text.Quoted

/-!
# Tracing settings

Tracing is set up by a directory with a file for each key: `backend`, `zipkin-endpoint` and
`sample-rate`.  A file that is not there leaves its key unset; blanks around a value do not count.
The backend is judged first, then the endpoint that it may need, then the rate.
-/

namespace EventIntake

inductive TraceSink where
  | none
  | zipkin
  deriving DecidableEq, Repr

inductive TracingFault where
  | unreadable (path : String) (reason : ReadError)
  | unknownBackend (name : String)
  | missingEndpoint
  | sampleRate (value : String)
  deriving DecidableEq, Repr

def TracingFault.message : TracingFault → String
  | unreadable path reason => "failed to read tracing setting " ++ path ++ ": " ++ reason.message
  | unknownBackend name => "unknown tracing backend " ++ Text.quoted name
  | missingEndpoint => "zipkin backend requires a zipkin-endpoint"
  | sampleRate value => "sample-rate " ++ Text.quoted value ++ " must be a number between 0 and 1"

structure TracingSettings where
  backend : TraceSink
  endpoint : Option String
  sampleRate : Binary64
  deriving DecidableEq, Repr

namespace TracingSettings

/-- One in ten. -/
def defaultRate : Binary64 := ⟨false, Binary64.ofDecimal 1 (-1)⟩

/-- What applies when no key is set. -/
def default : TracingSettings := ⟨.none, Option.none, defaultRate⟩

/-- The path of a file in a directory. -/
def keyPath (dir key : String) : String :=
  if dir = "" ∨ dir.endsWith "/" then dir ++ key else dir ++ "/" ++ key

/-- The value of a key without the blanks around it, if its file is there. -/
def keyText (files : Files.Tree) (dir key : String) : Except TracingFault (Option String) :=
  match files.readText (keyPath dir key) with
  | .ok value => .ok (some (Text.trimmed value))
  | .error .notFound => .ok Option.none
  | .error reason => .error (.unreadable (keyPath dir key) reason)

def backendOf : Option String → Except TracingFault TraceSink
  | Option.none => .ok .none
  | some name =>
    if name = "" ∨ name = "none" then .ok .none
    else if name = "zipkin" then .ok .zipkin
    else .error (.unknownBackend name)

def rateOf : Option String → Except TracingFault Binary64
  | Option.none => .ok defaultRate
  | some value =>
    match (Number.binary64? value.toList).filter Binary64.inUnitInterval with
    | some rate => .ok rate
    | Option.none => .error (.sampleRate value)

def ofDirectory (files : Files.Tree) (dir : String) : Except TracingFault TracingSettings := do
  let backend ← backendOf (← keyText files dir "backend")
  let endpoint := (← keyText files dir "zipkin-endpoint").filter (· ≠ "")
  if backend = .zipkin ∧ endpoint = Option.none then throw .missingEndpoint
  let sampleRate ← rateOf (← keyText files dir "sample-rate")
  return { backend, endpoint, sampleRate }

/-- Whether these are the settings that apply by default, with numbers compared by value. -/
def isDefault (t : TracingSettings) : Bool :=
  t.backend == .none && t.endpoint.isNone && t.sampleRate == defaultRate

end TracingSettings

end EventIntake
