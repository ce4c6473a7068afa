import EventIntake.Settings.Basic
import EventIntake.Text.Blank
import EventIntake.Text.Quoted
import EventIntake.Url.Reading

/-!
# Validation

Settings are accepted when they violate no constraint.  All violations are reported, in the order of
the constraints; each constraint is judged by itself.
-/

namespace EventIntake

/-- The longest duration that can be set, one day. -/
def maxDurationSecs : Nat := 86400

inductive Violation where
  | zero (field : String)
  | tooLarge (field : String) (max : Nat)
  | portConflict (port : Nat)
  | empty (field : String)
  | endpoint (url : String) (reason : Url.ParseError)
  | metricsAddress (address : String)
  deriving DecidableEq, Repr

namespace Violation

def message : Violation → String
  | zero field => field ++ " must be non-zero"
  | tooLarge field max => field ++ " must be at most " ++ toString max
  | portConflict port =>
    "ingress.port and ingress.tls_port must differ (both " ++ toString port ++ ")"
  | empty field => field ++ " must not be empty"
  | endpoint url reason =>
    "capability.endpoint " ++ Text.quoted url ++ " is not a valid URL: " ++ reason.message
  | metricsAddress address =>
    "observability.metrics_address " ++ Text.quoted address ++ " is not a socket address"

/-- The field that is at fault, where there is one. -/
def field? : Violation → Option String
  | zero field | tooLarge field _ | empty field => some field
  | _ => none

end Violation

namespace Settings

def nonZero (value : Nat) (field : String) : Option Violation :=
  if value = 0 then some (.zero field) else none

def duration (value max : Nat) (field : String) : Option Violation :=
  if value = 0 then some (.zero field)
  else if max < value then some (.tooLarge field max)
  else none

/-- The ports of two listeners on one host differ. -/
def portConflict (s : Settings) : Option Violation :=
  if s.ingress.port ≠ 0 ∧ s.ingress.port = s.ingress.tlsPort then
    some (.portConflict s.ingress.port)
  else none

def badEndpoint (s : Settings) : Option Violation :=
  match s.capability.endpoint with
  | none => none
  | some endpoint =>
    match Url.parse endpoint with
    | .ok _ => none
    | .error reason => some (.endpoint endpoint reason)

def badMetricsAddress (s : Settings) : Option Violation :=
  if s.observability.metricsEnabled
      ∧ (Net.SocketAddress.ofText? s.observability.metricsAddress).isNone then
    some (.metricsAddress s.observability.metricsAddress)
  else none

/-- What each constraint finds, in order. -/
def findings (s : Settings) : List (Option Violation) :=
  [nonZero s.ingress.port "ingress.port",
    nonZero s.ingress.tlsPort "ingress.tls_port",
    s.ingress.instances.bind fun n => nonZero n "ingress.instances",
    duration s.startup.waitSecs maxDurationSecs "startup.wait_secs",
    duration s.startup.phaseTimeoutSecs maxDurationSecs "startup.phase_timeout_secs",
    duration s.watcher.pollIntervalMillis (maxDurationSecs * 1000) "watcher.poll_interval_ms",
    duration s.capability.startupTimeoutSecs maxDurationSecs "capability.startup_timeout_secs",
    duration s.capability.resyncSecs maxDurationSecs "capability.resync_secs",
    duration s.shutdown.closeTimeoutSecs maxDurationSecs "shutdown.close_timeout_secs",
    s.portConflict,
    if s.paths.contract = "" then some (.empty "paths.contract") else none,
    if Text.trim s.ingress.bindHost.toList = [] then some (.empty "ingress.bind_host") else none,
    s.badEndpoint,
    s.badMetricsAddress]

def violations (s : Settings) : List Violation := s.findings.filterMap id

def isValid (s : Settings) : Bool := s.violations.isEmpty

end Settings

end EventIntake
