import EventIntake.Capability.ControlPlane
import EventIntake.Capability.Informer
import EventIntake.Contract.Exchange
import EventIntake.Ingress.Server
import EventIntake.Lifecycle.Session
import EventIntake.Receiver.Host
import EventIntake.Settings.Basic
import EventIntake.Settings.Tracing

/-!
# Starting a receiver

A receiver starts in phases, and each phase registers what it starts.  The phases follow from the
settings, from what the files hold and from what the source of event types answers; everything that
can go wrong in a phase is an action that fails.

A phase that bounds its own work by a deadline has a limit that is a second longer, so that the
deadline inside is the one that is told.
-/

namespace EventIntake

open Capability (Acquisition EventIndex EventType Informer Source)
open Lifecycle (Action Phase Resource)

/-- What a receiver is started with. -/
structure Receiver where
  settings : Settings
  files : Files.Tree := {}
  /-- A source of event types that stands for the configured control plane. -/
  source : Option Source := none
  /-- What becomes of requests to the configured control plane. -/
  transfer : Capability.Transfer := .none
  /-- How long such a request takes, if it is ever answered. -/
  transferTime : Option Duration := some ⟨0⟩
  bus : Bus := {}
  host : Host := {}

namespace Receiver

/-- The time by which the limit of a phase is longer than the deadline inside it. -/
def margin : Duration := .ofSecs 1

def resource (r : Receiver) (name : String) (stage : Lifecycle.Stage) : Resource (Action Unit) :=
  ⟨name, stage, (r.host.closes name).actions⟩

/-- The name under which the exporter of metrics is closed. -/
def exporterName : String := "metrics-exporter"

/-- The name under which tracing is closed. -/
def tracerName : String := "tracer-provider"

/-- The name under which the listener for signals is closed. -/
def listenerName : String := "signal-listener"

def metricsExporter (r : Receiver) : Resource (Action Unit) :=
  r.resource exporterName .infrastructure

def tracerProvider (r : Receiver) : Resource (Action Unit) :=
  r.resource tracerName .infrastructure

def eventBus (r : Receiver) : Resource (Action Unit) :=
  r.resource Bus.name .substrate

def eventTypeInformer (r : Receiver) : Resource (Action Unit) :=
  r.resource Informer.name .background

def ingressWorker (r : Receiver) (i : Nat) : Resource (Action Unit) :=
  r.resource (Ingress.workerName i) .background

def contractPublisher (r : Receiver) : Resource (Action Unit) :=
  r.resource Publisher.name .background

def contractWatcher (r : Receiver) : Resource (Action Unit) :=
  r.resource Watch.name .background

def signalListener (r : Receiver) : Resource (Action Unit) :=
  r.resource listenerName .background

/-- Do what follows from a result, or fail with the text of the error. -/
def orFail {ε β : Type} (message : ε → String) (next : β → List (Action Unit)) :
    Except ε β → List (Action Unit)
  | .ok b => next b
  | .error e => [.fail (message e)]

/-! ## What the files give -/

def backend (r : Receiver) : Except FileError BackendOptions :=
  BackendOptions.ofFile r.files r.settings.paths.producer

def listener (r : Receiver) (port : Nat) : Except FileError ListenerOptions :=
  ListenerOptions.ofFile r.files r.settings.paths.httpServer r.settings.ingress.bindHost port

def http (r : Receiver) : Except FileError ListenerOptions := r.listener r.settings.ingress.port

def https (r : Receiver) : Except FileError ListenerOptions := r.listener r.settings.ingress.tlsPort

/-! ## Event types -/

/-- The control plane that the settings name, as a source. -/
def controlPlane (r : Receiver) (endpoint : String) : Source :=
  match Capability.ControlPlane.ofSettings r.files endpoint r.settings.capability.tokenPath with
  | .error e => { answers := fun _ => { result := .error e } }
  | .ok c =>
    -- a request that cannot be sent takes no time
    let delay := if c.obstacle?.isSome then some ⟨0⟩ else r.transferTime
    { answers := fun _ => { delay, result := c.list r.transfer } }

/-- Where event types are listed from, if they are. -/
def eventSource (r : Receiver) : Option Source :=
  if r.settings.capability.enabled then
    r.source.or (r.settings.capability.endpoint.map r.controlPlane)
  else none

/-- The start of the informer: what it leaves, and what came of it. -/
def acquisition (r : Receiver) : Option (Informer × Acquisition Unit) :=
  r.eventSource.map fun source =>
    let informer := Informer.ofSource source
    let period := r.settings.resyncInterval
    if positive : 0 < period.nanos then
      informer.acquire r.settings.startupTimeout period positive
    else informer.acquire r.settings.startupTimeout ⟨1⟩ (by decide)

/-- The index that is kept, if there is one. -/
def informer (r : Receiver) : Option Informer :=
  match r.acquisition with
  | some (informer, a) => if a.isAvailable then some informer else none
  | none => none

def index (r : Receiver) : Option EventIndex := r.informer.map Informer.index

/-- After the acquisition the start goes on, unless a permission is missing that is required. -/
def afterAcquisition (r : Receiver) : Acquisition Unit → List (Action Unit)
  | .available _ => [.register r.eventTypeInformer]
  | .denied reason =>
    if r.settings.capability.requirePermission then
      [.fail ("event type index requires list/watch permission: " ++ reason)]
    else []
  | .unavailable _ | .timedOut _ => []

/-! ## Phases -/

def metricsActions (r : Receiver) : List (Action Unit) :=
  let o := r.settings.observability
  if o.metricsEnabled then
    match Net.SocketAddress.ofText? o.metricsAddress with
    | none => [.fail "invalid socket address syntax"]
    | some a =>
      orFail (fun e => "failed to install metrics exporter: failed to create HTTP listener: " ++ e)
        (fun _ => [.register r.metricsExporter]) (r.host.exporter.listen a.address a.port)
  else []

def tracingActions (r : Receiver) : List (Action Unit) :=
  r.metricsActions
    ++ orFail TracingFault.message (fun _ => [.register r.tracerProvider])
      (TracingSettings.ofDirectory r.files r.settings.paths.tracing)

def informerActions (r : Receiver) : List (Action Unit) :=
  match r.acquisition with
  | none => []
  | some (informer, a) => .sleep (.ofMillis informer.cache.now) :: r.afterAcquisition a

def server (r : Receiver) : Except String Ingress.Server :=
  match r.http with
  | .ok o => Ingress.Server.listen o r.index r.host.ingress
  | .error e => .error e.message

def ingressActions (r : Receiver) : List (Action Unit) :=
  let workers := (List.range (r.settings.workerCount r.host.processors)).map fun i =>
    ((r.host.starts i).actions, r.ingressWorker i)
  orFail id (fun _ => [.deploy r.settings.wait workers]) r.server

/-- A phase of the start, with what else is told while it runs. -/
structure Step where
  phase : Phase Unit
  notes : Journal → Journal := id

def informerNotes (r : Receiver) (j : Journal) : Journal :=
  match r.acquisition with
  | none => j
  | some (informer, a) =>
    (informer.cache.journal.lines.foldl Journal.log j).count (·.outcome a.outcome)

def steps (r : Receiver) : List Step :=
  let s := r.settings
  let step (name : String) (body : List (Action Unit)) : Step :=
    { phase := ⟨name, s.phaseTimeout, body⟩ }
  [step "tracing" r.tracingActions,
    step "backend-client-config" (orFail FileError.message (fun _ => []) r.backend),
    step "server-options" (orFail FileError.message (fun _ => []) r.http),
    step "event-bus" [.register r.eventBus],
    { phase :=
        ⟨"event-type-informer", max s.phaseTimeout (s.startupTimeout + margin), r.informerActions⟩
      notes := r.informerNotes },
    { phase := ⟨"ingress-deployment", s.wait + margin, r.ingressActions⟩ },
    step "contract-watcher" [.register r.contractPublisher, .register r.contractWatcher],
    step "shutdown-hook" (orFail id (fun _ => [.register r.signalListener]) r.host.signals)]

/-- The steps one after the other, up to the first that fails. -/
def runSteps (s : Lifecycle.Session Unit) :
    List Step → Lifecycle.Session Unit × Option Lifecycle.BootFailure
  | [] => (s, none)
  | step :: rest =>
    let world := { s.world with journal := step.notes s.world.journal }
    match ({ s with world } : Lifecycle.Session Unit).perform (.phase step.phase) with
    | (s, .bootstrapError e) => (s, some e)
    | (s, _) => runSteps s rest

end Receiver

end EventIntake
