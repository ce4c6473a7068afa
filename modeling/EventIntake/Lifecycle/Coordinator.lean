import EventIntake.Lifecycle.Work

/-!
# The coordinator

The coordinator owns every resource that was handed over before the shutdown began.  The first
request for a shutdown takes all of them at once and turns later hand-overs away; `Entry`s keep the
order of registration, and `closingOrder` is the order in which they are closed.
-/

namespace EventIntake.Lifecycle

structure Coordinator (α : Type) where
  closeTimeout : Duration
  state : State := .bootstrapping
  accepting : Bool := true
  /-- How many resources were handed over so far, accepted or not. -/
  issued : Nat := 0
  entries : List (Entry α) := []
  report : Option Report := none
  /-- For each subscriber the cause it has not yet received. -/
  subscribers : List (Option Cause) := []

/-- By stage, and latest first within a stage. -/
def closingOrder {α : Type} (entries : List (Entry α)) : List (Entry α) :=
  Stage.all.flatMap fun s => entries.reverse.filter fun e => e.resource.stage == s

namespace Coordinator

variable {α : Type}

def registered (c : Coordinator α) : Nat := c.entries.length

/-- Hand a resource over.  The answer is its ticket and whether it was accepted. -/
def offer (c : Coordinator α) (r : Resource (Action α)) : Coordinator α × Nat × Bool :=
  if c.accepting then
    ({ c with issued := c.issued + 1, entries := c.entries ++ [⟨c.issued, r⟩] }, c.issued, true)
  else ({ c with issued := c.issued + 1 }, c.issued, false)

/-- Begin the shutdown, unless it has begun.  The answer is what has to be closed. -/
def drain (c : Coordinator α) (cause : Cause) : Coordinator α × Option (List (Entry α)) :=
  if c.accepting then
    ({ c with
        accepting := false
        entries := []
        state := .shuttingDown
        subscribers := c.subscribers.map fun _ => some cause },
      some (closingOrder c.entries))
  else (c, none)

/-- Leave the bootstrap for `s`, if the process is still in it. -/
def leaveBootstrap (c : Coordinator α) (s : State) : Coordinator α × Bool :=
  if c.state = .bootstrapping then ({ c with state := s }, true) else (c, false)

def stop (c : Coordinator α) (r : Report) : Coordinator α :=
  { c with report := some r, state := .stopped }

def subscribe (c : Coordinator α) : Coordinator α × Nat :=
  ({ c with subscribers := c.subscribers ++ [none] }, c.subscribers.length)

/-- The cause that subscriber `i` has not yet received. -/
def receive (c : Coordinator α) (i : Nat) : Coordinator α × Option Cause :=
  ({ c with subscribers := c.subscribers.set i none }, (c.subscribers[i]?).join)

end Coordinator

/-- What was refused, in the words of the refusal. -/
def refusalMessage (name : String) : String :=
  "shutdown already started; " ++ name ++ " was closed instead of registered"

/-- Everything the threads of a process share, and the threads. -/
structure World (α : Type) where
  now : Nat := 0
  coordinator : Coordinator α
  threads : List (Thread α) := []
  history : List (Nat × Event) := []
  notes : List (Nat × Note) := []
  journal : Journal := {}

namespace World

variable {α : Type}

def record (w : World α) (e : Event) : World α := { w with history := w.history ++ [(w.now, e)] }

def note (w : World α) (n : Note) : World α := { w with notes := w.notes ++ [(w.now, n)] }

/-- Hand-overs under way are given up, since what waits for them is. -/
def giveUp (w : World α) (refusals : List (Closing Unit)) : World α :=
  { w with notes := w.notes ++ refusals.map fun c => (w.now, .dropped c.ticket) }

def warn (w : World α) (message : String) (fields : List (String × String)) : World α :=
  { w with journal := w.journal.warn message fields }

def error (w : World α) (message : String) (fields : List (String × String)) : World α :=
  { w with journal := w.journal.error message fields }

def count (w : World α) (change : Metrics → Metrics) : World α :=
  { w with journal := w.journal.count change }

/-- The instant at which a timer of length `d` that starts now is due. -/
def dueIn (w : World α) (d : Duration) : Nat := w.now + d.millis

def spawn (w : World α) (t : Thread α) : World α := { w with threads := w.threads ++ [t] }

/-- Begin to close a resource. -/
def beginClose (w : World α) (ticket : Nat) (r : Resource (Action α)) :
    World α × Closing (Work α) :=
  (w.record (.closing ticket r.name),
    { ticket, name := r.name, stage := r.stage, due := w.dueIn w.coordinator.closeTimeout
      work := .ofActions r.close })

/-- Hand a resource over.  One that is refused is closed at once. -/
def register (w : World α) (r : Resource (Action α)) : World α × Option (Closing (Work α)) :=
  match w.coordinator.offer r with
  | (c, ticket, true) =>
    ((({ w with coordinator := c } : World α).note (.register ticket r.name)).note
      (.accepted ticket), none)
  | (c, ticket, false) =>
    let (w, closing) :=
      ((({ w with coordinator := c } : World α).note (.register ticket r.name)).warn
        "Registration after shutdown started, closing immediately"
        [("resource", r.name)]).beginClose ticket r
    (w, some closing)

/-- Begin the shutdown, unless it has begun: the pass over the resources is a thread of its own. -/
def trigger (w : World α) (cause : Cause) : World α :=
  let w := w.note (.trigger cause)
  match w.coordinator.drain cause with
  | (c, some entries) =>
    (({ w with coordinator := c } : World α).note (.state .shuttingDown)).spawn
      (.pass { cause, current := none, waiting := entries, attempted := [], errors := [] })
  | (_, none) => w

/-- Leave the bootstrap for `s`, if the process is still in it. -/
def leaveBootstrap (w : World α) (s : State) : World α × Bool :=
  match w.coordinator.leaveBootstrap s with
  | (c, true) => (({ w with coordinator := c } : World α).note (.state s), true)
  | (_, false) => (w, false)

def becomeRunning (w : World α) : World α × Bool := w.leaveBootstrap .running

def becomeFailed (w : World α) : World α × Bool := w.leaveBootstrap .failedStartup

def stop (w : World α) (r : Report) : World α :=
  ({ w with coordinator := w.coordinator.stop r } : World α).note (.state .stopped)

/-- How the close of a resource ended: `none` when it was cut off. -/
def endClose (w : World α) (c : Closing (Work α)) (result : Option (Except String (Value α))) :
    World α × Except CloseFailure Unit :=
  match result with
  | some (.ok _) => (w.record (.closed c.ticket c.name), .ok ())
  | some (.error reason) =>
    (w.record (.closeFailed c.ticket c.name), .error ⟨c.name, c.stage, reason⟩)
  | none =>
    (w.giveUp c.work.refusals,
      .error ⟨c.name, c.stage, "close timed out after " ++ w.coordinator.closeTimeout.text⟩)

/-- The end of the close of a resource that was refused: its hand-over comes back. -/
def endRefusal (w : World α) (c : Closing (Work α)) (result : Option (Except String (Value α))) :
    World α :=
  let w :=
    match w.endClose c result with
    | (w, .ok _) => w
    | (w, .error e) => w.warn "Late resource failed to close" [("error", e.message)]
  w.note (.refused c.ticket (refusalMessage c.name))

end World

end EventIntake.Lifecycle
