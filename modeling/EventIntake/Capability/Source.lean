import EventIntake.Time.Duration

/-!
# Sources

A source lists the event types that a control plane knows.  A list takes its time, or never ends,
and may be refused.  A source is what its first, second, third … list answers, and the instants at
which it was asked so far.
-/

namespace EventIntake.Capability

/-- An event type that the control plane knows: what events of type `type` mean in a namespace. -/
structure EventType where
  «namespace» : String
  name : String
  type : String
  deriving DecidableEq, Repr

inductive SourceError where
  /-- The source does not accept who asks. -/
  | permission (reason : String)
  | failed (reason : String)
  deriving DecidableEq, Repr

def SourceError.message : SourceError → String
  | permission reason => "permission denied: " ++ reason
  | failed reason => reason

/-- An answer that arrives after a time; with no time it never arrives. -/
structure Response (α : Type) where
  delay : Option Duration := some ⟨0⟩
  result : Except SourceError α

structure Source where
  answers : Nat → Response (List EventType)
  /-- When the source was asked, latest last. -/
  asked : List Nat := []

namespace Source

/-- The answer to the list that is asked for at `now`. -/
def list (s : Source) (now : Nat) : Source × Response (List EventType) :=
  ({ s with asked := s.asked ++ [now] }, s.answers s.asked.length)

@[simp] theorem asked_list (s : Source) (now : Nat) : (s.list now).1.asked = s.asked ++ [now] := rfl

@[simp] theorem answers_list (s : Source) (now : Nat) : (s.list now).1.answers = s.answers := rfl

end Source

end EventIntake.Capability
