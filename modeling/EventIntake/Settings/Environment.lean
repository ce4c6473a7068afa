import EventIntake.Number.Integer
import EventIntake.Settings.Basic
import EventIntake.Text.Blank
import EventIntake.Text.Quoted

/-!
# Settings from the environment

Each variable names one setting and overrides it.  Variables are taken in a fixed order, the numeric
ones first; the first that does not read as its number ends the overlay, and what came before it
stays in force.
-/

namespace EventIntake

/-- The value of each variable that is set. -/
abbrev Environment := String → Option String

def Environment.ofList (pairs : List (String × String)) : Environment :=
  fun name => pairs.lookup name

inductive Variable where
  | ingressPort
  | ingressTlsPort
  | ingressInstances
  | waitStartupSeconds
  | producerConfigPath
  | httpServerConfigPath
  | dataPlaneConfigPath
  | tracingPath
  | controlPlaneUrl
  | controlPlaneTokenPath
  | metricsAddress
  deriving DecidableEq, Repr

namespace Variable

def name : Variable → String
  | ingressPort => "INGRESS_PORT"
  | ingressTlsPort => "INGRESS_TLS_PORT"
  | ingressInstances => "INGRESS_INSTANCES"
  | waitStartupSeconds => "WAIT_STARTUP_SECONDS"
  | producerConfigPath => "PRODUCER_CONFIG_FILE_PATH"
  | httpServerConfigPath => "HTTPSERVER_CONFIG_FILE_PATH"
  | dataPlaneConfigPath => "DATA_PLANE_CONFIG_FILE_PATH"
  | tracingPath => "CONFIG_TRACING_PATH"
  | controlPlaneUrl => "CONTROL_PLANE_URL"
  | controlPlaneTokenPath => "CONTROL_PLANE_TOKEN_PATH"
  | metricsAddress => "METRICS_ADDRESS"

/-- The order in which they are taken. -/
def all : List Variable :=
  [ingressPort, ingressTlsPort, ingressInstances, waitStartupSeconds, producerConfigPath,
    httpServerConfigPath, dataPlaneConfigPath, tracingPath, controlPlaneUrl, controlPlaneTokenPath,
    metricsAddress]

end Variable

structure EnvironmentError where
  name : Variable
  value : String
  reason : Number.IntegerError
  deriving DecidableEq, Repr

def EnvironmentError.message (e : EnvironmentError) : String :=
  "invalid value " ++ Text.quoted e.value ++ " for " ++ e.name.name ++ ": " ++ e.reason.message

namespace Settings

/-- The largest number of 16 and of 64 bits. -/
def maxPort : Nat := 0xFFFF

def maxWord : Nat := 0xFFFFFFFFFFFFFFFF

/-- A value with the blanks around it left out, as a number. -/
def numberFrom (limit : Nat) (raw : String) : Except Number.IntegerError Nat :=
  Number.nat? limit (Text.trim raw.toList)

/-- Set what a variable names to its value. -/
def assign (s : Settings) (v : Variable) (raw : String) : Except Number.IntegerError Settings :=
  match v with
  | .ingressPort =>
    (numberFrom maxPort raw).map fun n => { s with ingress := { s.ingress with port := n } }
  | .ingressTlsPort =>
    (numberFrom maxPort raw).map fun n => { s with ingress := { s.ingress with tlsPort := n } }
  | .ingressInstances =>
    (numberFrom maxWord raw).map fun n =>
      { s with ingress := { s.ingress with instances := some n } }
  | .waitStartupSeconds =>
    (numberFrom maxWord raw).map fun n => { s with startup := { s.startup with waitSecs := n } }
  | .producerConfigPath => .ok { s with paths := { s.paths with producer := raw } }
  | .httpServerConfigPath => .ok { s with paths := { s.paths with httpServer := raw } }
  | .dataPlaneConfigPath => .ok { s with paths := { s.paths with contract := raw } }
  | .tracingPath => .ok { s with paths := { s.paths with tracing := raw } }
  | .controlPlaneUrl => .ok { s with capability := { s.capability with endpoint := some raw } }
  | .controlPlaneTokenPath =>
    .ok { s with capability := { s.capability with tokenPath := some raw } }
  | .metricsAddress =>
    .ok { s with
      observability := { s.observability with metricsEnabled := true, metricsAddress := raw } }

/-- Take the variables in order.  The settings that are returned hold what was taken, also when one
of them failed. -/
def overlayFrom (env : Environment) : List Variable → Settings → Settings × Option EnvironmentError
  | [], s => (s, none)
  | v :: rest, s =>
    match env v.name with
    | none => overlayFrom env rest s
    | some raw =>
      match s.assign v raw with
      | .ok s => overlayFrom env rest s
      | .error reason => (s, some ⟨v, raw, reason⟩)

def overlay (env : Environment) (s : Settings) : Settings × Option EnvironmentError :=
  overlayFrom env Variable.all s

end Settings

end EventIntake
