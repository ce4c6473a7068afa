/-!
# Stages, causes and states of a process

Resources close in the order of their stages, so that nothing still at work depends on a stage that
is already gone.  `State.Next` holds the moves a process may make between its states; no move leads
back, which `State.Next.rank_lt` says with a rank.
-/

namespace EventIntake.Lifecycle

inductive Stage where
  /-- Whatever produces or consumes: watchers, refreshers, publishers, workers. -/
  | background
  /-- What these talk through: the event bus. -/
  | substrate
  /-- What all of it reports to: tracing and metrics. -/
  | infrastructure
  deriving DecidableEq, Repr, Inhabited

namespace Stage

def label : Stage → String
  | background => "background"
  | substrate => "substrate"
  | infrastructure => "infrastructure"

/-- The place of a stage in the teardown. -/
def rank : Stage → Nat
  | background => 0
  | substrate => 1
  | infrastructure => 2

def all : List Stage := [background, substrate, infrastructure]

end Stage

/-- What began the shutdown. -/
inductive Cause where
  | signal
  | fatalBootstrap
  | requested
  deriving DecidableEq, Repr, Inhabited

def Cause.label : Cause → String
  | signal => "Signal"
  | fatalBootstrap => "FatalBootstrap"
  | requested => "Requested"

inductive State where
  | bootstrapping
  | running
  | failedStartup
  | shuttingDown
  | stopped
  deriving DecidableEq, Repr, Inhabited

namespace State

def label : State → String
  | bootstrapping => "Bootstrapping"
  | running => "Running"
  | failedStartup => "FailedStartup"
  | shuttingDown => "ShuttingDown"
  | stopped => "Stopped"

inductive Next : State → State → Prop where
  | run : Next bootstrapping running
  | fail : Next bootstrapping failedStartup
  | shutDown {s : State} (hs : s = bootstrapping ∨ s = running ∨ s = failedStartup) :
      Next s shuttingDown
  | stop : Next shuttingDown stopped

def rank : State → Nat
  | bootstrapping => 0
  | running => 1
  | failedStartup => 1
  | shuttingDown => 2
  | stopped => 3

theorem Next.rank_lt {s t : State} (h : Next s t) : s.rank < t.rank := by
  cases h with
  | run => decide
  | fail => decide
  | shutDown hs => rcases hs with rfl | rfl | rfl <;> decide
  | stop => decide

end State

/-- A resource whose close failed or was cut off. -/
structure CloseFailure where
  resource : String
  stage : Stage
  reason : String
  deriving DecidableEq, Repr

def CloseFailure.message (e : CloseFailure) : String :=
  "failed to close " ++ e.resource ++ " (" ++ e.stage.label ++ "): " ++ e.reason

/-- What the one teardown of a process did: the resources in the order their close began, and those
that did not close. -/
structure Report where
  cause : Cause
  attempted : List String
  errors : List CloseFailure
  deriving DecidableEq, Repr

def Report.isClean (r : Report) : Bool := r.errors.isEmpty

end EventIntake.Lifecycle
