import EventIntake.Capability.Source
import EventIntake.Journal

/-!
# Acquisitions

An optional capability is asked for once, within a limit.  Whatever comes of it the process goes on,
so an acquisition always ends, with one of four outcomes.  An answer that arrives exactly at the
limit is in time.
-/

namespace EventIntake.Capability

inductive Acquisition (α : Type) where
  | available (value : α)
  | denied (reason : String)
  | unavailable (reason : String)
  | timedOut (limit : Duration)
  deriving Repr

namespace Acquisition

variable {α : Type}

def get? : Acquisition α → Option α
  | available value => some value
  | _ => none

def isAvailable (a : Acquisition α) : Bool := a.get?.isSome

def outcome : Acquisition α → Outcome
  | available _ => .available
  | denied _ => .permissionDenied
  | unavailable _ => .unavailable
  | timedOut _ => .timedOut

def map {β : Type} (f : α → β) : Acquisition α → Acquisition β
  | available value => .available (f value)
  | denied reason => .denied reason
  | unavailable reason => .unavailable reason
  | timedOut limit => .timedOut limit

def ofResult : Except SourceError α → Acquisition α
  | .ok value => .available value
  | .error (.permission reason) => .denied reason
  | .error (.failed reason) => .unavailable reason

/-- The acquisition of what `r` answers, and how many milliseconds it takes. -/
def ofResponse (limit : Duration) (r : Response α) : Acquisition α × Nat :=
  match r.delay with
  | some delay =>
    if delay.millis ≤ limit.millis then (ofResult r.result, delay.millis)
    else (timedOut limit, limit.millis)
  | none => (timedOut limit, limit.millis)

/-- What is told of an acquisition. -/
def warning? (capability : String) : Acquisition α → Option LogLine
  | available _ => none
  | denied reason => some ⟨.warn,
      "Insufficient permissions to list/watch " ++ capability
        ++ "; continuing without it. Grant list and watch on " ++ capability
        ++ " to the receiver's service account to avoid redundant auto-create requests",
      [("capability", capability), ("error", reason)]⟩
  | unavailable reason => some ⟨.warn,
      "Failed to start " ++ capability ++ "; continuing without it",
      [("capability", capability), ("error", reason)]⟩
  | timedOut limit => some ⟨.warn,
      "Timed out starting " ++ capability ++ "; continuing without it",
      [("capability", capability), ("timeout_ms", toString limit.floorMillis)]⟩

/-- The journal with an acquisition: one warning unless it went well, and one count. -/
def record (capability : String) (a : Acquisition α) (j : Journal) : Journal :=
  ((a.warning? capability).toList.foldl Journal.log j).count (·.outcome a.outcome)

theorem snd_ofResponse_le (limit : Duration) (r : Response α) :
    (ofResponse limit r).2 ≤ limit.millis := by
  unfold ofResponse
  split
  · split
    · assumption
    · exact Nat.le_refl _
  · exact Nat.le_refl _

@[simp] theorem outcome_map {β : Type} (f : α → β) (a : Acquisition α) :
    (a.map f).outcome = a.outcome := by
  cases a <;> rfl

end Acquisition

end EventIntake.Capability
