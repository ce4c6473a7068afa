import EventIntake.Command.Arguments
import EventIntake.Receiver.Running
import EventIntake.Settings.Load

/-!
# The course of the program

The program ends at once with usage, with settings that are refused or with settings that were only
to be checked, or when the receiver does not start; otherwise the receiver runs until a signal.
-/

namespace EventIntake.Command

def usage : String :=
  "Usage: event-receiver [-c PATH | --config PATH] [--check]"

/-- The end of the program, with what it has written. -/
structure Ending where
  status : Nat
  stdout : String := ""
  stderr : String := ""
  deriving DecidableEq, Repr

/-- What the program runs in. -/
structure Surroundings where
  files : Files.Tree := {}
  environment : Environment
  processors : Nat := 1
  transfer : Capability.Transfer := .none

inductive Course where
  | ended (ending : Ending)
  | running (receiver : Running)

/-- How the program ends, once a signal has come if it needs one. -/
def Course.ending : Course → Ending
  | ended ending => ending
  | running receiver =>
    let (receiver, report) := receiver.shutDown .signal
    let failures := (report.map Lifecycle.Report.errors).getD []
    { status := receiver.status
      stderr := "\n".intercalate (failures.map Lifecycle.CloseFailure.message) }

def Course.isRunning : Course → Bool
  | ended _ => false
  | running _ => true

/-- A bus with the consumers that the program attaches by itself. -/
def attended : Bus := .attended [reconcilerAddress, Ingress.ingressAddress]

/-- Start a receiver with settings. -/
def launch (w : Surroundings) (s : Settings) : Course :=
  let receiver : Receiver :=
    { settings := s, files := w.files, transfer := w.transfer, bus := attended
      host := { processors := w.processors } }
  match Running.start receiver with
  | .ok running => .running running
  | .error failure => .ended { status := failure.status, stdout := failure.error.message }

def run (w : Surroundings) (arguments : List String) : Course :=
  match parse arguments with
  | .help => .ended { status := 0, stdout := usage }
  | .misuse => .ended { status := 2, stderr := usage }
  | .run o =>
    match Settings.load w.files o.config w.environment with
    | .error e => .ended { status := 1, stderr := "invalid configuration: " ++ e.message }
    | .ok s => if o.check then .ended { status := 0, stdout := "configuration ok" } else launch w s

end EventIntake.Command
