import EventIntake.Settings.Load

/-!
# The items of the settings

The settings are made of items, each of them a field of a section.  What an item is may be told by
the document, under the name of the section and the key of the item, and by a variable of the
environment.  Here this is said item by item: what a document has for it (`Item.given`), and what
the environment has (`Item.overriding`).
-/

namespace EventIntake.Settings

open Toml (Value)

inductive Section where
  | ingress
  | paths
  | startup
  | watcher
  | capability
  | shutdown
  | observability
  deriving DecidableEq

namespace Section

def all : List Section :=
  [ingress, paths, startup, watcher, capability, shutdown, observability]

def name : Section → String
  | ingress => "ingress"
  | paths => "paths"
  | startup => "startup"
  | watcher => "watcher"
  | capability => "capability"
  | shutdown => "shutdown"
  | observability => "observability"

abbrev Shape : Section → Type
  | ingress => IngressSettings
  | paths => PathSettings
  | startup => StartupSettings
  | watcher => WatcherSettings
  | capability => CapabilitySettings
  | shutdown => ShutdownSettings
  | observability => ObservabilitySettings

def get : (k : Section) → Settings → k.Shape
  | ingress, s => s.ingress
  | paths, s => s.paths
  | startup, s => s.startup
  | watcher, s => s.watcher
  | capability, s => s.capability
  | shutdown, s => s.shutdown
  | observability, s => s.observability

def fields : (k : Section) → List (Field k.Shape)
  | ingress => ingressFields
  | paths => pathFields
  | startup => startupFields
  | watcher => watcherFields
  | capability => capabilityFields
  | shutdown => shutdownFields
  | observability => observabilityFields

def read (k : Section) : FieldReader k.Shape := readSection k.fields (k.get {})

end Section

inductive Item where
  | bindHost
  | port
  | tlsPort
  | instances
  | producer
  | httpServer
  | contract
  | tracing
  | waitSecs
  | phaseTimeoutSecs
  | pollIntervalMillis
  | enabled
  | endpoint
  | tokenPath
  | startupTimeoutSecs
  | resyncSecs
  | requirePermission
  | closeTimeoutSecs
  | logLevel
  | logFormat
  | metricsEnabled
  | metricsAddress
  deriving DecidableEq

def Section.items : Section → List Item
  | ingress => [.bindHost, .port, .tlsPort, .instances]
  | paths => [.producer, .httpServer, .contract, .tracing]
  | startup => [.waitSecs, .phaseTimeoutSecs]
  | watcher => [.pollIntervalMillis]
  | capability =>
    [.enabled, .endpoint, .tokenPath, .startupTimeoutSecs, .resyncSecs, .requirePermission]
  | shutdown => [.closeTimeoutSecs]
  | observability => [.logLevel, .logFormat, .metricsEnabled, .metricsAddress]

namespace Item

def home : Item → Section
  | bindHost | port | tlsPort | instances => .ingress
  | producer | httpServer | contract | tracing => .paths
  | waitSecs | phaseTimeoutSecs => .startup
  | pollIntervalMillis => .watcher
  | enabled | endpoint | tokenPath | startupTimeoutSecs | resyncSecs | requirePermission =>
    .capability
  | closeTimeoutSecs => .shutdown
  | logLevel | logFormat | metricsEnabled | metricsAddress => .observability

def key : Item → String
  | bindHost => "bind_host"
  | port => "port"
  | tlsPort => "tls_port"
  | instances => "instances"
  | producer => "producer_config"
  | httpServer => "http_server_config"
  | contract => "contract"
  | tracing => "tracing_dir"
  | waitSecs => "wait_secs"
  | phaseTimeoutSecs => "phase_timeout_secs"
  | pollIntervalMillis => "poll_interval_ms"
  | enabled => "enabled"
  | endpoint => "endpoint"
  | tokenPath => "token_path"
  | startupTimeoutSecs => "startup_timeout_secs"
  | resyncSecs => "resync_secs"
  | requirePermission => "require_permission"
  | closeTimeoutSecs => "close_timeout_secs"
  | logLevel => "log_level"
  | logFormat => "log_format"
  | metricsEnabled => "metrics_enabled"
  | metricsAddress => "metrics_address"

abbrev Content : Item → Type
  | bindHost | producer | httpServer | contract | tracing | logLevel | metricsAddress => String
  | port | tlsPort | waitSecs | phaseTimeoutSecs | pollIntervalMillis | startupTimeoutSecs
  | resyncSecs | closeTimeoutSecs => Nat
  | instances => Option Nat
  | endpoint | tokenPath => Option String
  | enabled | requirePermission | metricsEnabled => Bool
  | logFormat => LogStyle

def look : (i : Item) → i.home.Shape → i.Content
  | bindHost => IngressSettings.bindHost
  | port => IngressSettings.port
  | tlsPort => IngressSettings.tlsPort
  | instances => IngressSettings.instances
  | producer => PathSettings.producer
  | httpServer => PathSettings.httpServer
  | contract => PathSettings.contract
  | tracing => PathSettings.tracing
  | waitSecs => StartupSettings.waitSecs
  | phaseTimeoutSecs => StartupSettings.phaseTimeoutSecs
  | pollIntervalMillis => WatcherSettings.pollIntervalMillis
  | enabled => CapabilitySettings.enabled
  | endpoint => CapabilitySettings.endpoint
  | tokenPath => CapabilitySettings.tokenPath
  | startupTimeoutSecs => CapabilitySettings.startupTimeoutSecs
  | resyncSecs => CapabilitySettings.resyncSecs
  | requirePermission => CapabilitySettings.requirePermission
  | closeTimeoutSecs => ShutdownSettings.closeTimeoutSecs
  | logLevel => ObservabilitySettings.logLevel
  | logFormat => ObservabilitySettings.logFormat
  | metricsEnabled => ObservabilitySettings.metricsEnabled
  | metricsAddress => ObservabilitySettings.metricsAddress

def get (i : Item) (s : Settings) : i.Content := i.look (i.home.get s)

def read : (i : Item) → FieldReader i.Content
  | bindHost | producer | httpServer | contract | tracing | logLevel | metricsAddress => readString
  | port | tlsPort => readNat maxPort
  | waitSecs | phaseTimeoutSecs | pollIntervalMillis | startupTimeoutSecs | resyncSecs
  | closeTimeoutSecs => readNat maxWord
  | instances => fun v => (readNat maxWord v).map some
  | endpoint | tokenPath => fun v => (readString v).map some
  | enabled | requirePermission | metricsEnabled => readBool
  | logFormat => readFormat

/-- The variable that names an item.  The address of the metrics also switches them on. -/
def setBy : Item → Option Variable
  | port => some .ingressPort
  | tlsPort => some .ingressTlsPort
  | instances => some .ingressInstances
  | waitSecs => some .waitStartupSeconds
  | producer => some .producerConfigPath
  | httpServer => some .httpServerConfigPath
  | contract => some .dataPlaneConfigPath
  | tracing => some .tracingPath
  | endpoint => some .controlPlaneUrl
  | tokenPath => some .controlPlaneTokenPath
  | metricsEnabled | metricsAddress => some .metricsAddress
  | bindHost | phaseTimeoutSecs | pollIntervalMillis | enabled | startupTimeoutSecs | resyncSecs
  | requirePermission | closeTimeoutSecs | logLevel | logFormat => none

def ofText : (i : Item) → String → Option i.Content
  | port, raw | tlsPort, raw => (numberFrom maxPort raw).toOption
  | instances, raw => (numberFrom maxWord raw).toOption.map some
  | waitSecs, raw => (numberFrom maxWord raw).toOption
  | producer, raw | httpServer, raw | contract, raw | tracing, raw | metricsAddress, raw => some raw
  | endpoint, raw | tokenPath, raw => some (some raw)
  | metricsEnabled, _ => some true
  | _, _ => none

end Item

/-- The value under a key; the last of them, if there are several. -/
def entry (key : String) (entries : List (String × Value)) : Option Value :=
  entries.reverse.lookup key

/-- The entries of a section: a table has them, an array has values for them in order. -/
def Section.entries? (k : Section) : Value → Option (List (String × Value))
  | .table entries => some entries
  | .array values => some ((k.items.map Item.key).zip values)
  | _ => none

def Item.given (entries : List (String × Value)) (i : Item) : Option i.Content :=
  (((entry i.home.name entries).bind i.home.entries?).bind (entry i.key)).bind i.read

def Fits (entries : List (String × Value)) : Prop :=
  ∀ (k : Section) v, (k.name, v) ∈ entries → ∃ found, k.entries? v = some found ∧
    ∀ (i : Item) w, i.home = k → (i.key, w) ∈ found → (i.read w).isSome

def Item.overriding (env : Environment) (i : Item) : Option i.Content :=
  (i.setBy.bind fun v => env v.name).bind i.ofText

/-- What an item comes to: the environment goes before the document, and that before the default. -/
def Item.resolved (env : Environment) (entries : List (String × Value)) (i : Item) : i.Content :=
  (i.overriding env).getD ((i.given entries).getD (i.get {}))

theorem Item.home_mem_items (i : Item) : i ∈ i.home.items := by
  cases i <;> decide

theorem Section.home_of_mem_items {k : Section} {i : Item} (h : i ∈ k.items) : i.home = k := by
  revert h
  cases k <;> cases i <;> decide

attribute [ext] IngressSettings PathSettings StartupSettings WatcherSettings CapabilitySettings
  ShutdownSettings ObservabilitySettings Settings

theorem eq_of_items {s t : Settings} (h : ∀ i : Item, i.get s = i.get t) : s = t :=
  Settings.ext
    (IngressSettings.ext (h .bindHost) (h .port) (h .tlsPort) (h .instances))
    (PathSettings.ext (h .producer) (h .httpServer) (h .contract) (h .tracing))
    (StartupSettings.ext (h .waitSecs) (h .phaseTimeoutSecs))
    (WatcherSettings.ext (h .pollIntervalMillis))
    (CapabilitySettings.ext (h .enabled) (h .endpoint) (h .tokenPath) (h .startupTimeoutSecs)
      (h .resyncSecs) (h .requirePermission))
    (ShutdownSettings.ext (h .closeTimeoutSecs))
    (ObservabilitySettings.ext (h .logLevel) (h .logFormat) (h .metricsEnabled)
      (h .metricsAddress))

end EventIntake.Settings
