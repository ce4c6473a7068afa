import EventIntake.Receiver.Startup

/-!
# A running receiver

Once it has started, a receiver publishes its contract, answers requests and keeps its index, until
the shutdown.  The shutdown closes what was registered; from then on the watch is stopped, the
publisher and the bus are closed, and only what consumers already have can be received.
-/

namespace EventIntake

open Capability (Informer)
open Lifecycle (Action Cause Report)

/-- A start that did not go through.  Everything it had started is closed. -/
structure StartFailure where
  error : Lifecycle.BootFailure
  session : Lifecycle.Session Unit
  busClosed : Bool

def StartFailure.journal (f : StartFailure) : Journal := f.session.world.journal

/-- The status with which the process ends when its start did not go through. -/
def StartFailure.status (_ : StartFailure) : Nat := 1

structure Running where
  session : Lifecycle.Session Unit
  exchange : Exchange
  /-- Who was asked for the first list of event types, whatever came of it. -/
  lister : Option Informer
  server : Ingress.Server
  backend : BackendOptions
  http : ListenerOptions
  https : ListenerOptions

namespace Running

/-- The informer that keeps an index, if there is one. -/
def informer (x : Running) : Option Informer := x.lister.filter (·.loop.isSome)

/-- The publisher and the started watch of a receiver. -/
def publishing (r : Receiver) : Exchange :=
  let x : Exchange := { files := r.files, bus := r.bus }
  let (x, publisher) := x.addPublisher reconcilerAddress
  let (x, watcher) := x.addPublishing r.settings.paths.contract publisher
  (x.start watcher).1

/-- Let the informer come to the instant that the process is at. -/
def catchUp (x : Running) : Running :=
  match x.lister with
  | none => x
  | some i =>
    let next := i.advance x.session.world.now
    let told := next.cache.journal.lines.drop i.cache.journal.lines.length
    let journal := told.foldl Journal.log x.session.world.journal
    { x with
      session := { x.session with world := { x.session.world with journal } }
      lister := some next }

/-- Start a receiver. -/
def start (r : Receiver) : Except StartFailure Running :=
  let s := Lifecycle.Session.start r.settings.closeTimeout
  match Receiver.runSteps s r.steps, r.server, r.backend, r.http, r.https with
  | (s, none), .ok server, .ok backend, .ok http, .ok https =>
    .ok (catchUp {
      session := (s.perform .finish).1
      exchange := publishing r
      lister := r.acquisition.map Prod.fst
      server, backend, http, https })
  | (s, e), _, _, _, _ =>
    let attempted := (s.world.coordinator.report.map Report.attempted).getD []
    .error {
      error := e.getD (.aborted "")
      session := s
      busClosed := r.bus.closed || Bus.name ∈ attempted }

/-- What closing the informer takes: a list under way is waited for. -/
def informerClose (i : Informer) : List (Action Unit) :=
  match i.loop with
  | none => []
  | some loop =>
    match loop.end? i.cache.now with
    | some due => [.sleep (.ofMillis (due - i.cache.now))]
    | none => [.hang]

/-- The session, with the close of the informer as it is at this instant. -/
def closing (x : Running) : Lifecycle.Session Unit :=
  match x.informer with
  | none => x.session
  | some i =>
    let c := x.session.world.coordinator
    let entries := c.entries.map fun e =>
      if e.resource.name = Informer.name then
        { e with resource := { e.resource with close := informerClose i ++ e.resource.close } }
      else e
    { x.session with world := { x.session.world with coordinator := { c with entries } } }

/-- Begin the shutdown, unless it has begun, and wait for its report. -/
def shutDown (x : Running) (cause : Cause) : Running × Option Report :=
  let (session, _) := x.closing.perform (.spawnTrigger cause)
  let (session, reply) := session.perform (.join x.session.spawned.length)
  let exchange := (((x.exchange.stop 0).1.closePublisher 0))
  let exchange := { exchange with bus := exchange.bus.close }
  ({ x with session, exchange },
    match reply with
    | .report r => some r
    | _ => none)

/-- The status with which the process ends after its shutdown, whatever did not close. -/
def status (_ : Running) : Nat := 0

def isDown (x : Running) : Bool := x.session.world.coordinator.report.isSome

/-- Let time pass. -/
def sleep (x : Running) (time : Duration) : Running :=
  let x := { x with session := (x.session.perform (.sleep time)).1, exchange := x.exchange.sleep }
  if x.isDown then x else x.catchUp

/-- Make a request to the ingress. -/
def request (n : Net.Network) (x : Running) (r : Ingress.Request) :
    Except String (Running × Ingress.Response) := do
  let index := x.informer.map Informer.index
  let (bus, _, response) ← { x.server with index }.request n x.exchange.bus r
  return ({ x with exchange := { x.exchange with bus } }, response)

end Running

end EventIntake
