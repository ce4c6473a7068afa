import EventIntake.Journal
import EventIntake.Lifecycle.Action
import EventIntake.Time.Due

/-!
# Work under way

`Work` is a list of actions of which some are done: what the present one waits for, the value given
so far and the actions still to begin.  `Worker` is one worker of a deployment, `Closing` a close in
progress with the instant at which it is cut off.  A `Thread` is work that goes on beside the rest:
a shutdown that was begun for somebody else, or the pass that closes everything.

A resource is known by its ticket, the number of the hand-over that brought it.  Two resources may
share a name; no two share a ticket.

`Event` is what an onlooker sees of a run.  `Note` is what the coordinator and the bootstrap note
down about it, too fine for a log line that asks for attention.
-/

namespace EventIntake.Lifecycle

/-- A resource that is being closed, cut off at `due`. -/
structure Closing (ω : Type) where
  ticket : Nat
  name : String
  stage : Stage
  due : Nat
  work : ω

mutual

inductive Work (α : Type) where
  | mk (pause : Pause α) (value : Value α) (rest : List (Action α))

/-- What the present action waits for. -/
inductive Pause (α : Type) where
  | none
  | untilTime (due : Nat)
  | forever
  /-- The report of the shutdown. -/
  | report
  /-- The close of a resource that was refused; if it is not tolerated the action then fails. -/
  | refusal (tolerated : Bool) (closing : Closing (Work α))
  | deployment (deadline : Duration) (due : Nat) (workers : List (Worker α))

inductive Worker (α : Type) where
  | waiting (number : Nat) (start : List (Action α)) (resource : Resource (Action α))
  | starting (number : Nat) (start : Work α) (resource : Resource (Action α))
  | refused (closing : Closing (Work α))
  | settled (result : Except String Unit)

end

instance {α : Type} : Inhabited (Work α) := ⟨.mk .forever .nothing []⟩

def Work.ofActions {α : Type} (actions : List (Action α)) : Work α := .mk .none .nothing actions

/-- A registered resource. -/
structure Entry (α : Type) where
  ticket : Nat
  resource : Resource (Action α)

/-- The pass that closes what was registered, one resource after the other. -/
structure Pass (α : Type) where
  cause : Cause
  current : Option (Closing (Work α))
  waiting : List (Entry α)
  attempted : List String
  errors : List CloseFailure

inductive Thread (α : Type) where
  | trigger (cause : Cause) (begun : Bool)
  | pass (pass : Pass α)
  | finished

/-- What happens in the sight of an onlooker. -/
inductive Event where
  | said (text : String)
  | stateIs (state : State)
  | registeredAre (count : Nat)
  | closing (ticket : Nat) (name : String)
  | closed (ticket : Nat) (name : String)
  | closeFailed (ticket : Nat) (name : String)
  | accepted
  | refused (message : String)
  | reported (attempted : Nat)
  | creating (worker : Nat)
  deriving DecidableEq, Repr

def Event.text : Event → String
  | said text => text
  | stateIs state => "state " ++ state.label
  | registeredAre count => "registered " ++ toString count
  | closing _ name => "close " ++ name
  | closed _ name => "closed " ++ name
  | closeFailed _ name => "close failed " ++ name
  | accepted => "register ok"
  | refused message => "register error: " ++ message
  | reported attempted => "report " ++ toString attempted
  | creating worker => "create " ++ toString worker

/-- A call on the coordinator, the end of one, a move of the state, or a phase of the bootstrap. -/
inductive Note where
  /-- A resource is handed over. -/
  | register (ticket : Nat) (name : String)
  /-- The hand-over came back, and the resource belongs to the coordinator. -/
  | accepted (ticket : Nat)
  /-- The hand-over came back with this refusal. -/
  | refused (ticket : Nat) (message : String)
  /-- The hand-over was given up before it came back. -/
  | dropped (ticket : Nat)
  | trigger (cause : Cause)
  /-- A wait for the end of the shutdown came back. -/
  | returned (report : Report)
  | state (state : State)
  | phaseBegun (name : String)
  | phaseDone (name : String)
  deriving DecidableEq, Repr

mutual

/-- The hand-overs under way, each of which waits for the close of what was refused. -/
def Work.refusals {α : Type} : Work α → List (Closing Unit)
  | .mk pause _ _ => pause.refusals

def Pause.refusals {α : Type} : Pause α → List (Closing Unit)
  | .none | .untilTime _ | .forever | .report => []
  | .refusal _ ⟨ticket, name, stage, due, work⟩ => ⟨ticket, name, stage, due, ()⟩ :: work.refusals
  | .deployment _ _ workers => workersRefusals workers

def Worker.refusals {α : Type} : Worker α → List (Closing Unit)
  | .waiting _ _ _ | .settled _ => []
  | .starting _ start _ => start.refusals
  | .refused ⟨ticket, name, stage, due, work⟩ => ⟨ticket, name, stage, due, ()⟩ :: work.refusals

def workersRefusals {α : Type} : List (Worker α) → List (Closing Unit)
  | [] => []
  | w :: rest => w.refusals ++ workersRefusals rest

end

mutual

/-- A bound on the steps that are left. -/
def Work.weight {α : Type} : Work α → Nat
  | .mk pause _ rest => 1 + pause.weight + actionsWeight rest

def Pause.weight {α : Type} : Pause α → Nat
  | .none | .forever => 0
  | .untilTime _ | .report => 1
  | .refusal _ ⟨_, _, _, _, work⟩ => 1 + work.weight
  | .deployment _ _ workers => 1 + runningWeight workers

def Worker.weight {α : Type} : Worker α → Nat
  | .waiting _ start resource => 6 + actionsWeight start + resourceWeight resource
  | .starting _ start resource => 3 + start.weight + resourceWeight resource
  | .refused ⟨_, _, _, _, work⟩ => 2 + work.weight
  | .settled _ => 0

def runningWeight {α : Type} : List (Worker α) → Nat
  | [] => 0
  | w :: rest => w.weight + runningWeight rest

end

def entriesWeight {α : Type} (entries : List (Entry α)) : Nat :=
  entries.foldr (fun e n => resourceWeight e.resource + n) 0

def Thread.weight {α : Type} : Thread α → Nat
  | .trigger _ begun => if begun then 1 else 4
  | .pass p => 1 + (match p.current with | some c => 1 + c.work.weight | none => 0)
      + entriesWeight p.waiting
  | .finished => 0

mutual

/-- The earliest instant after `now` at which the work can go on. -/
def Work.nextDue {α : Type} (now : Nat) : Work α → Option Nat
  | .mk pause _ _ => pause.nextDue now

def Pause.nextDue {α : Type} (now : Nat) : Pause α → Option Nat
  | .none | .forever | .report => Option.none
  | .untilTime due => after now due
  | .refusal _ ⟨_, _, _, due, work⟩ => earlier (after now due) (work.nextDue now)
  | .deployment _ due workers => earlier (after now due) (workersDue now workers)

def Worker.nextDue {α : Type} (now : Nat) : Worker α → Option Nat
  | .waiting _ _ _ | .settled _ => none
  | .starting _ start _ => start.nextDue now
  | .refused ⟨_, _, _, due, work⟩ => earlier (after now due) (work.nextDue now)

def workersDue {α : Type} (now : Nat) : List (Worker α) → Option Nat
  | [] => none
  | w :: rest => earlier (w.nextDue now) (workersDue now rest)

end

end EventIntake.Lifecycle
