import EventIntake.Settings.Environment
import EventIntake.Toml.Document

/-!
# Settings from a document

Each section of the settings is a table with the fields of the section.  What the document leaves
out keeps its default, and what the settings do not know is passed over.  A section may also be an
array of its fields, in the order in which the section has them.  A value of another type, or a
number that its field cannot hold, makes the whole document unfit.
-/

namespace EventIntake.Settings

open Toml (Value)

/-- Reads a field from a value. -/
abbrev FieldReader (β : Type) := Value → Option β

def readString : FieldReader String
  | .string s => some s
  | _ => none

def readBool : FieldReader Bool
  | .boolean b => some b
  | _ => none

def readNat (limit : Nat) : FieldReader Nat
  | .integer (.ofNat n) => if n ≤ limit then some n else none
  | _ => none

def readFormatName : String → Option LogStyle
  | "pretty" => some .pretty
  | "json" => some .json
  | _ => none

/-- The name of a format, or a table with the name and nothing under it. -/
def readFormat : FieldReader LogStyle
  | .string s => readFormatName s
  | .table [(name, .table [])] | .table [(name, .array [])] => readFormatName name
  | _ => none

/-- A field of a section: its name and what a value for it makes of the section. -/
abbrev Field (σ : Type) := String × (σ → Value → Option σ)

def field {σ β : Type} (name : String) (read : FieldReader β) (set : σ → β → σ) : Field σ :=
  (name, fun s v => (read v).map (set s))

/-- A section from a table or an array of its fields. -/
def readSection {σ : Type} (fields : List (Field σ)) (initial : σ) : Value → Option σ
  | .table entries =>
    entries.foldlM (fun s (key, v) =>
      match fields.lookup key with
      | some set => set s v
      | none => some s) initial
  | .array items => (fields.zip items).foldlM (fun s ((_, set), v) => set s v) initial
  | _ => none

def ingressFields : List (Field IngressSettings) :=
  [field "bind_host" readString fun s v => { s with bindHost := v },
    field "port" (readNat maxPort) fun s v => { s with port := v },
    field "tls_port" (readNat maxPort) fun s v => { s with tlsPort := v },
    field "instances" (readNat maxWord) fun s v => { s with instances := some v }]

def pathFields : List (Field PathSettings) :=
  [field "producer_config" readString fun s v => { s with producer := v },
    field "http_server_config" readString fun s v => { s with httpServer := v },
    field "contract" readString fun s v => { s with contract := v },
    field "tracing_dir" readString fun s v => { s with tracing := v }]

def startupFields : List (Field StartupSettings) :=
  [field "wait_secs" (readNat maxWord) fun s v => { s with waitSecs := v },
    field "phase_timeout_secs" (readNat maxWord) fun s v => { s with phaseTimeoutSecs := v }]

def watcherFields : List (Field WatcherSettings) :=
  [field "poll_interval_ms" (readNat maxWord) fun s v => { s with pollIntervalMillis := v }]

def capabilityFields : List (Field CapabilitySettings) :=
  [field "enabled" readBool fun s v => { s with enabled := v },
    field "endpoint" readString fun s v => { s with endpoint := some v },
    field "token_path" readString fun s v => { s with tokenPath := some v },
    field "startup_timeout_secs" (readNat maxWord) fun s v => { s with startupTimeoutSecs := v },
    field "resync_secs" (readNat maxWord) fun s v => { s with resyncSecs := v },
    field "require_permission" readBool fun s v => { s with requirePermission := v }]

def shutdownFields : List (Field ShutdownSettings) :=
  [field "close_timeout_secs" (readNat maxWord) fun s v => { s with closeTimeoutSecs := v }]

def observabilityFields : List (Field ObservabilitySettings) :=
  [field "log_level" readString fun s v => { s with logLevel := v },
    field "log_format" readFormat fun s v => { s with logFormat := v },
    field "metrics_enabled" readBool fun s v => { s with metricsEnabled := v },
    field "metrics_address" readString fun s v => { s with metricsAddress := v }]

def sections : List (Field Settings) :=
  [field "ingress" (readSection ingressFields {}) fun s v => { s with ingress := v },
    field "paths" (readSection pathFields {}) fun s v => { s with paths := v },
    field "startup" (readSection startupFields {}) fun s v => { s with startup := v },
    field "watcher" (readSection watcherFields {}) fun s v => { s with watcher := v },
    field "capability" (readSection capabilityFields {}) fun s v => { s with capability := v },
    field "shutdown" (readSection shutdownFields {}) fun s v => { s with shutdown := v },
    field "observability" (readSection observabilityFields {}) fun s v =>
      { s with observability := v }]

/-- The settings of a document, if it is one and fits. -/
def ofDocument? (text : String) : Option Settings :=
  (Toml.parse text).bind fun entries => readSection sections {} (.table entries)

end EventIntake.Settings
