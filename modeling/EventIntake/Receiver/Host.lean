import EventIntake.Lifecycle.Action
import EventIntake.Net.Network

/-!
# The host of a receiver

What is not in the hands of the program and yet decides how it starts and how it closes: where it
may listen, whether it can hear of signals, how its workers start and how its resources close.  On a
host as one expects it nothing of that takes time or fails.
-/

namespace EventIntake

open Lifecycle (Action)

/-- How long something takes, if it ever ends, and with what it fails then. -/
structure Conduct where
  time : Option Duration := some ⟨0⟩
  failure : Option String := none
  deriving DecidableEq, Repr

def Conduct.actions (c : Conduct) : List (Action Unit) :=
  match c.time with
  | none => [.hang]
  | some time => .sleep time :: (c.failure.map Action.fail).toList

structure Host where
  processors : Nat := 1
  /-- Where requests are listened for. -/
  ingress : Net.Sockets := {}
  /-- Where the metrics are asked for. -/
  exporter : Net.Sockets := {}
  /-- Whether the handlers of signals can be installed. -/
  signals : Except String Unit := .ok ()
  /-- The start of each worker. -/
  starts : Nat → Conduct := fun _ => {}
  /-- The close of each resource, by its name. -/
  closes : String → Conduct := fun _ => {}

end EventIntake
