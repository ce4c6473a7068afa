import EventIntake.Time.Duration

/-!
# Settings

The settings of a receiver, in sections.  Every field has a default, so that a receiver runs with
none of them given.
-/

namespace EventIntake

inductive LogStyle where
  | pretty
  | json
  deriving DecidableEq, Repr

def LogStyle.label : LogStyle → String
  | pretty => "pretty"
  | json => "json"

structure IngressSettings where
  bindHost : String := "0.0.0.0"
  port : Nat := 8080
  tlsPort : Nat := 8443
  /-- The number of workers; one for each processor when it is not given. -/
  instances : Option Nat := none
  deriving DecidableEq, Repr

structure PathSettings where
  producer : String := "/etc/config/producer.properties"
  httpServer : String := "/etc/config/http-server.properties"
  contract : String := "/etc/receiver-data-plane/data"
  tracing : String := "/etc/tracing"
  deriving DecidableEq, Repr

structure StartupSettings where
  waitSecs : Nat := 8
  phaseTimeoutSecs : Nat := 10
  deriving DecidableEq, Repr

structure WatcherSettings where
  pollIntervalMillis : Nat := 1000
  deriving DecidableEq, Repr

structure CapabilitySettings where
  enabled : Bool := true
  endpoint : Option String := none
  tokenPath : Option String := none
  startupTimeoutSecs : Nat := 5
  resyncSecs : Nat := 30
  requirePermission : Bool := false
  deriving DecidableEq, Repr

structure ShutdownSettings where
  closeTimeoutSecs : Nat := 5
  deriving DecidableEq, Repr

structure ObservabilitySettings where
  logLevel : String := "info"
  logFormat : LogStyle := .pretty
  metricsEnabled : Bool := false
  metricsAddress : String := "0.0.0.0:9090"
  deriving DecidableEq, Repr

structure Settings where
  ingress : IngressSettings := {}
  paths : PathSettings := {}
  startup : StartupSettings := {}
  watcher : WatcherSettings := {}
  capability : CapabilitySettings := {}
  shutdown : ShutdownSettings := {}
  observability : ObservabilitySettings := {}
  deriving DecidableEq, Repr

namespace Settings

def wait (s : Settings) : Duration := .ofSecs s.startup.waitSecs

def phaseTimeout (s : Settings) : Duration := .ofSecs s.startup.phaseTimeoutSecs

def pollInterval (s : Settings) : Duration := .ofMillis s.watcher.pollIntervalMillis

def startupTimeout (s : Settings) : Duration := .ofSecs s.capability.startupTimeoutSecs

def resyncInterval (s : Settings) : Duration := .ofSecs s.capability.resyncSecs

def closeTimeout (s : Settings) : Duration := .ofSecs s.shutdown.closeTimeoutSecs

/-- The number of workers on a host with `processors`. -/
def workerCount (s : Settings) (processors : Nat) : Nat :=
  s.ingress.instances.getD processors

end Settings

end EventIntake
