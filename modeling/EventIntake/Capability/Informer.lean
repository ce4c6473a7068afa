import EventIntake.Capability.Acquisition
import EventIntake.Capability.Refresh

/-!
# Informers

An informer lists once, and only when that went well does it keep the index fresh in the background.
`Informer` is an informer under observation with a clock of its own; it can be started again, and a
start that fails leaves an empty index.
-/

namespace EventIntake.Capability

structure Informer where
  cache : Cache
  loop : Option Refresh := none

namespace Informer

/-- The name under which the loop is closed. -/
def name : String := "event-type-informer"

/-- What the control plane has to be able to list. -/
def capability : String := "eventtypes"

def ofSource (source : Source) : Informer := ⟨{ source }, none⟩

def index (i : Informer) : EventIndex := i.cache.index

/-- Ask for the first list. -/
def ask (i : Informer) : Informer × Response (List EventType) :=
  let (source, response) := i.cache.source.list i.cache.now
  (⟨{ i.cache with source, index := .empty }, none⟩, response)

/-- The informer `time` milliseconds later, when nothing happens until then. -/
def wait (i : Informer) (time : Nat) : Informer :=
  { i with cache := { i.cache with now := i.cache.now + time } }

/-- Keep an index fresh that was just listed. -/
def follow (i : Informer) (period : Duration) (positive : 0 < period.nanos)
    (items : List EventType) : Informer :=
  let index := EventIndex.ofList items
  let journal :=
    if index.isEmpty then
      i.cache.journal.warn "Control plane lists no event types; every ce-type is unregistered" []
    else i.cache.journal
  ⟨{ i.cache with index, journal }, some { ticker := .starting period positive i.cache.now }⟩

/-- Start without a limit.  The answer is `none` when the first list never arrives. -/
def start (i : Informer) (period : Duration) (positive : 0 < period.nanos) :
    Informer × Option (Except SourceError Unit) :=
  let (i, response) := i.ask
  match response.delay, response.result with
  | none, _ => (i, none)
  | some delay, .ok items =>
    ((i.wait delay.millis).follow period positive items, some (.ok ()))
  | some delay, .error e => (i.wait delay.millis, some (.error e))

/-- Start within a limit. -/
def acquire (i : Informer) (limit period : Duration) (positive : 0 < period.nanos) :
    Informer × Acquisition Unit :=
  let (i, response) := i.ask
  let (acquisition, time) := Acquisition.ofResponse limit response
  let i :=
    match acquisition.get? with
    | some items => (i.wait time).follow period positive items
    | none => i.wait time
  let journal := acquisition.record capability i.cache.journal
  ({ i with cache := { i.cache with journal } }, acquisition.map fun _ => ())

/-- Let everything happen until `limit`, that instant included. -/
def advance (i : Informer) (limit : Nat) : Informer :=
  match i.loop with
  | none => { i with cache := { i.cache with now := max i.cache.now limit } }
  | some r =>
    let (cache, r) := r.advance limit i.cache
    ⟨cache, some r⟩

def sleep (i : Informer) (time : Duration) : Informer := i.advance (i.cache.now + time.millis)

inductive Closed where
  | notStarted
  | done
  /-- Still under way when patience ended. -/
  | pending
  deriving DecidableEq, Repr

/-- Close the informer and wait for its loop to end, no longer than `patience`. -/
def close (i : Informer) (patience : Duration) : Informer × Closed :=
  match i.loop with
  | none => (i, .notStarted)
  | some r =>
    if r.stopping then (i, .notStarted)
    else
      let limit := i.cache.now + patience.millis
      let stopped : Informer := { i with loop := some r.stop }
      match r.end? i.cache.now with
      | some due =>
        if due ≤ limit then (stopped.advance due, .done) else (stopped.advance limit, .pending)
      | none => (stopped.advance limit, .pending)

end Informer

end EventIntake.Capability
