import EventIntake.Lifecycle.ClosePass

/-!
# The bootstrap

Phases run in order, each under its own limit.  The first that fails or takes too long aborts the
bootstrap: the process is marked as failed, the shutdown begins, and only with its report does the
run of the phases end.  After that no phase is run any more.
-/

namespace EventIntake.Lifecycle

structure Phase (α : Type) where
  name : String
  limit : Duration
  body : List (Action α)

/-- Why the bootstrap did not go through. -/
inductive BootFailure where
  | phaseFailed (phase : String) (reason : String)
  | phaseTimedOut (phase : String) (limit : Duration)
  | aborted (phase : String)
  deriving DecidableEq, Repr

namespace BootFailure

def phase : BootFailure → String
  | phaseFailed phase _ => phase
  | phaseTimedOut phase _ => phase
  | aborted phase => phase

def message : BootFailure → String
  | phaseFailed phase reason => "startup phase '" ++ phase ++ "' failed: " ++ reason
  | phaseTimedOut phase limit => "startup phase '" ++ phase ++ "' timed out after " ++ limit.text
  | aborted phase => "bootstrap already aborted; phase '" ++ phase ++ "' was not run"

/-- Whether the phase was begun at all. -/
def ran : BootFailure → Bool
  | aborted _ => false
  | _ => true

end BootFailure

/-- What a bootstrap is at. -/
inductive Stand (α : Type) where
  | between
  | body (phase : String) (limit : Duration) (due : Nat) (work : Work α)
  /-- Aborted, and waiting for the report. -/
  | tearingDown (error : BootFailure)

/-- A run of phases, with the names of those that are complete and the value of the last one. -/
structure Bootstrap (α : Type) where
  stand : Stand α := .between
  waiting : List (Phase α)
  aborted : Bool
  completed : List String := []
  value : Value α := .nothing

namespace Bootstrap

variable {α : Type}

/-- How a run of phases ended, and whether the bootstrap is aborted from now on. -/
structure Result (α : Type) where
  aborted : Bool
  outcome : Except BootFailure (List String × Value α)

def abort (w : World α) (b : Bootstrap α) (e : BootFailure) : World α × Bootstrap α :=
  let w := w.error "Startup failed, tearing down" [("phase", e.phase), ("error", e.message)]
  (w.becomeFailed.1.trigger .fatalBootstrap, { b with aborted := true, stand := .tearingDown e })

def step (w : World α) (b : Bootstrap α) : Option (World α × (Bootstrap α ⊕ Result α)) :=
  match b.stand with
  | .between =>
    match b.waiting with
    | [] => some (w, .inr ⟨b.aborted, .ok (b.completed, b.value)⟩)
    | p :: rest =>
      if b.aborted then some (w, .inr ⟨true, .error (.aborted p.name)⟩)
      else some (w.note (.phaseBegun p.name), .inl { b with
        waiting := rest
        stand := .body p.name p.limit (w.dueIn p.limit) (.ofActions p.body) })
  | .body name limit due work =>
    match work.step w with
    | some (w, .inl work) => some (w, .inl { b with stand := .body name limit due work })
    | some (w, .inr (.ok value)) =>
      some (w.note (.phaseDone name), .inl { b with
        stand := .between
        completed := b.completed ++ [name]
        value })
    | some (w, .inr (.error reason)) =>
      let (w, b) := b.abort w (.phaseFailed name reason)
      some (w, .inl b)
    | none =>
      if due ≤ w.now then
        let (w, b) := b.abort (w.giveUp work.refusals) (.phaseTimedOut name limit)
        some (w, .inl b)
      else none
  | .tearingDown e =>
    match w.coordinator.report with
    | some r =>
      let w := w.note (.returned r)
      let w := r.errors.foldl (fun w failure =>
        w.error "Teardown failure after aborted startup"
          [("resource", failure.resource), ("reason", failure.reason)]) w
      some (w, .inr ⟨true, .error e⟩)
    | none => none

def nextDue (now : Nat) (b : Bootstrap α) : Option Nat :=
  match b.stand with
  | .body _ _ due work => earlier (after now due) (work.nextDue now)
  | .between | .tearingDown _ => none

def weight (b : Bootstrap α) : Nat :=
  (match b.stand with
    | .body _ _ _ work => 8 + work.weight
    | .between | .tearingDown _ => 1)
  + b.waiting.foldr (fun p n => 12 + actionsWeight p.body + n) 0

end Bootstrap

end EventIntake.Lifecycle
