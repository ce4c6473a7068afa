import EventIntake.Lifecycle.Stage
import EventIntake.Time.Duration

/-!
# Actions

What a phase of the bootstrap, the start of a worker and the close of a resource do is a list of
actions, run in order until one fails.  A resource carries the actions of its close, and some
actions carry resources, so the two are defined together.
-/

namespace EventIntake.Lifecycle

/-- A named thing that was started, with what closing it does. -/
structure Resource (β : Type) where
  name : String
  stage : Stage
  close : List β
  deriving Repr

/-- One action, where a value that a phase hands on is of type `α`. -/
inductive Action (α : Type) where
  /-- Say a text. -/
  | log (text : String)
  /-- Say the state of the process. -/
  | state
  /-- Say how many resources are registered. -/
  | registered
  | sleep (time : Duration)
  | fail (message : String)
  /-- Never end. -/
  | hang
  | value (value : α)
  /-- Hand a resource over; the action fails when the resource is refused. -/
  | register (resource : Resource (Action α))
  /-- Hand a resource over and say what came of it. -/
  | tryRegister (resource : Resource (Action α))
  /-- Begin the shutdown and wait for its report. -/
  | trigger (cause : Cause)
  /-- Have the shutdown begun by somebody else. -/
  | spawnTrigger (cause : Cause)
  /-- Start workers together, each by its actions, and register the resource of each one that is up;
  all have to be up before the deadline. -/
  | deploy (deadline : Duration) (workers : List (List (Action α) × Resource (Action α)))

instance {α : Type} : Inhabited (Action α) := ⟨.hang⟩

/-- What a list of actions has come to. -/
inductive Value (α : Type) where
  | nothing
  | given (value : α)
  | deployed (workers : Nat)
  deriving Repr

mutual

/-- A bound on the steps that an action takes, those of its resources included. -/
def Action.weight {α : Type} : Action α → Nat
  | .register r | .tryRegister r => 4 + resourceWeight r
  | .deploy _ workers => 3 + workersWeight workers
  | .trigger _ => 4
  | .spawnTrigger _ => 6
  | _ => 2

def resourceWeight {α : Type} : Resource (Action α) → Nat
  | ⟨_, _, close⟩ => 4 + actionsWeight close

def actionsWeight {α : Type} : List (Action α) → Nat
  | [] => 0
  | a :: rest => a.weight + actionsWeight rest

def workersWeight {α : Type} : List (List (Action α) × Resource (Action α)) → Nat
  | [] => 0
  | (start, resource) :: rest =>
      8 + actionsWeight start + resourceWeight resource + workersWeight rest

end

end EventIntake.Lifecycle
