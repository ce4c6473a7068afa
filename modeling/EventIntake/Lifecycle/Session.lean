import EventIntake.Lifecycle.Bootstrap

/-!
# Sessions

A session is a process under observation.  Somebody outside makes requests, one after the other; a
request may take time, and while it does the threads of the process go on.  The clock moves only
when nothing can go on, and then to the next instant at which something is due.  A request is
answered when it has ended and all that can happen at that instant has happened.
-/

namespace EventIntake.Lifecycle

variable {α : Type}

inductive Request (α : Type) where
  | register (resource : Resource (Action α))
  /-- Begin the shutdown and wait for its report, no longer than `patience`. -/
  | trigger (cause : Cause) (patience : Duration)
  | spawnTrigger (cause : Cause)
  /-- Wait for a shutdown that was begun by `spawnTrigger`. -/
  | join (spawned : Nat)
  | waitStopped (limit : Duration)
  | sleep (time : Duration)
  | becomeRunning
  | becomeFailed
  | subscribe
  | receive (subscriber : Nat)
  | phase (phase : Phase α)
  | run (phases : List (Phase α))
  | isAborted
  | finish

inductive Reply (α : Type) where
  | done
  | refused (message : String)
  | report (report : Report)
  | dropped
  | pending
  | spawned (number : Nat)
  | gone
  | flag (value : Bool)
  | subscriber (number : Nat)
  | cause (cause : Cause)
  | empty
  | value (value : Value α)
  | ran (phases : List String)
  | bootstrapError (error : BootFailure)
  /-- The bootstrap is over and takes no more requests. -/
  | finished

/-- A request in progress. -/
inductive Waiting (α : Type) where
  | work (work : Work α)
  /-- For the report, no longer than until `due`; then the answer is `late`. -/
  | report (due : Nat) (late : Reply α)
  | thread (index : Nat)
  | untilTime (due : Nat)
  | bootstrap (single : Bool) (bootstrap : Bootstrap α)
  | answered (reply : Reply α)

structure Session (α : Type) where
  world : World α
  aborted : Bool := false
  isFinished : Bool := false
  /-- The threads that `spawnTrigger` started, until they are joined. -/
  spawned : List (Option Nat) := []

def Reply.ofBootstrap (single : Bool) :
    Except BootFailure (List String × Value α) → Reply α
  | .ok (names, v) => if single then .value v else .ran names
  | .error e => .bootstrapError e

namespace Waiting

def step (s : Session α) : Waiting α → Option (Session α × Waiting α)
  | .work job =>
    match job.step s.world with
    | some (world, .inl job) => some ({ s with world }, .work job)
    | some (world, .inr (.ok _)) => some ({ s with world }, .answered .done)
    | some (world, .inr (.error e)) => some ({ s with world }, .answered (.refused e))
    | none => none
  | .report due late =>
    match s.world.coordinator.report with
    | some r => some ({ s with world := s.world.note (.returned r) }, .answered (.report r))
    | none => if due ≤ s.world.now then some (s, .answered late) else none
  | .thread i =>
    match s.world.threads[i]?, s.world.coordinator.report with
    | some .finished, some r => some (s, .answered (.report r))
    | _, _ => none
  | .untilTime due => if due ≤ s.world.now then some (s, .answered .done) else none
  | .bootstrap single b =>
    match b.step s.world with
    | some (world, .inl b) => some ({ s with world }, .bootstrap single b)
    | some (world, .inr result) =>
      some ({ s with world, aborted := result.aborted },
        .answered (.ofBootstrap single result.outcome))
    | none => none
  | .answered _ => none

def nextDue (now : Nat) : Waiting α → Option Nat
  | .work job => job.nextDue now
  | .report due _ | .untilTime due => after now due
  | .bootstrap _ b => b.nextDue now
  | .thread _ | .answered _ => none

def weight : Waiting α → Nat
  | .work job => 1 + job.weight
  | .report _ _ | .thread _ | .untilTime _ => 1
  | .bootstrap _ b => 1 + b.weight
  | .answered _ => 0

end Waiting

namespace Session

/-- A process that has just begun. -/
def start (closeTimeout : Duration) : Session α := { world := { coordinator := { closeTimeout } } }

def now (s : Session α) : Nat := s.world.now

/-- One step at the present instant: of the request if it can go on, else of a thread. -/
def step (s : Session α) (request : Waiting α) : Option (Session α × Waiting α) :=
  match request.step s with
  | some next => some next
  | none => s.world.step.map fun world => ({ s with world }, request)

/-- Let the process go on until the request has ended and nothing more can happen at that instant.
The first argument bounds the number of steps. -/
def run : Nat → Session α → Waiting α → Session α × Waiting α
  | 0, s, request => (s, request)
  | fuel + 1, s, request =>
    match s.step request with
    | some (s, request) => run fuel s request
    | none =>
      match request with
      | .answered _ => (s, request)
      | _ =>
        match earlier (request.nextDue s.now) s.world.nextDue with
        | some due => run fuel { s with world := { s.world with now := due } } request
        | none => (s, request)

/-- Begin a request. -/
def begin (s : Session α) : Request α → Session α × Waiting α
  | .register r => (s, .work (.ofActions [.register r]))
  | .trigger cause patience =>
    let world := s.world.trigger cause
    ({ s with world }, .report (world.dueIn patience) .dropped)
  | .spawnTrigger cause =>
    ({ s with
        world := s.world.spawn (.trigger cause false)
        spawned := s.spawned ++ [some s.world.threads.length] },
      .answered (.spawned s.spawned.length))
  | .join i =>
    match s.spawned[i]? with
    | some (some thread) => ({ s with spawned := s.spawned.set i none }, .thread thread)
    | _ => (s, .answered .gone)
  | .waitStopped limit => (s, .report (s.world.dueIn limit) .pending)
  | .sleep time => (s, .untilTime (s.world.dueIn time))
  | .becomeRunning =>
    let (world, moved) := s.world.becomeRunning
    ({ s with world }, .answered (.flag moved))
  | .becomeFailed =>
    let (world, moved) := s.world.becomeFailed
    ({ s with world }, .answered (.flag moved))
  | .subscribe =>
    let (coordinator, i) := s.world.coordinator.subscribe
    ({ s with world := { s.world with coordinator } }, .answered (.subscriber i))
  | .receive i =>
    match s.world.coordinator.receive i with
    | (coordinator, some cause) =>
      ({ s with world := { s.world with coordinator } }, .answered (.cause cause))
    | (_, none) => (s, .answered .empty)
  | .phase p =>
    if s.isFinished then (s, .answered .finished)
    else (s, .bootstrap true { waiting := [p], aborted := s.aborted })
  | .run phases =>
    if s.isFinished then (s, .answered .finished)
    else (s, .bootstrap false { waiting := phases, aborted := s.aborted })
  | .isAborted => (s, .answered (if s.isFinished then .finished else .flag s.aborted))
  | .finish =>
    if s.isFinished then (s, .answered .finished)
    else
      ({ s with world := s.world.becomeRunning.1, isFinished := true }, .answered (.flag true))

/-- A bound on the steps and the moves of the clock until the request has ended: between two moves
of the clock there is a step. -/
def fuel (s : Session α) (request : Waiting α) : Nat :=
  2 * (request.weight + s.world.weight) + 2

/-- Make a request and wait for its answer. -/
def perform (s : Session α) (r : Request α) : Session α × Reply α :=
  let (s, request) := s.begin r
  match run (s.fuel request) s request with
  | (s, .answered reply) => (s, reply)
  | (s, _) => (s, .pending)

end Session

end EventIntake.Lifecycle
