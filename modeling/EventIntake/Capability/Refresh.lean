import EventIntake.Capability.EventIndex
import EventIntake.Journal
import EventIntake.Time.Ticker

/-!
# Refreshing the index

After its first list an informer lists again at every tick, one list at a time.  A list that goes
well replaces the index as a whole; one that fails is told of and leaves it as it was.  To stop, the
loop needs to get back to waiting for its ticker: a list under way is not broken off.
-/

namespace EventIntake.Capability

/-- An index with the source it is listed from, at an instant. -/
structure Cache where
  now : Nat := 0
  source : Source
  index : EventIndex := .empty
  journal : Journal := {}

/-- The cache after the answer to a list. -/
def Cache.update (c : Cache) : Except SourceError (List EventType) → Cache
  | .ok items => { c with index := .ofList items }
  | .error e =>
    { c with
      journal := c.journal.warn "Event type resync failed, keeping previous snapshot"
        [("error", e.message)] }

inductive Activity where
  /-- Waiting for the ticker. -/
  | waiting
  /-- A list is under way and arrives at `due`, or never. -/
  | listing (due : Option Nat) (result : Except SourceError (List EventType))
  | ended
  deriving Repr

def Activity.rank : Activity → Nat
  | ended => 0
  | waiting => 1
  | listing _ _ => 2

/-- The loop that keeps a cache fresh. -/
structure Refresh where
  ticker : Ticker
  activity : Activity := .waiting
  stopping : Bool := false

namespace Refresh

/-- Take the tick at `now` and begin to wait for the answer. -/
def ask (r : Refresh) (now : Nat) (response : Response (List EventType)) : Refresh :=
  { r with
    ticker := r.ticker.tick now
    activity := .listing (response.delay.map fun d => now + d.millis) response.result }

/-- The answer of a list has come. -/
def settle (r : Refresh) : Refresh :=
  { r with activity := if r.stopping then .ended else .waiting }

theorem rank_settle (r : Refresh) : r.settle.activity.rank ≤ 1 := by
  unfold settle
  cases r.stopping <;> simp [Activity.rank]

/-- All that happens until `limit`, that instant included. -/
def advance (limit : Nat) (c : Cache) (r : Refresh) : Cache × Refresh :=
  let idle := ({ c with now := max c.now limit }, r)
  match _hActivity : r.activity with
  | .waiting =>
    let now := max c.now r.ticker.instant
    if _hDue : now ≤ limit then
      let (source, response) := c.source.list now
      advance limit { c with now, source } (r.ask now response)
    else idle
  | .listing (some due) result =>
    if due ≤ limit then advance limit ({ c with now := max c.now due }.update result) r.settle
    else idle
  | .listing none _ | .ended => idle
termination_by (limit * 1000000 + 1 - r.ticker.due, r.activity.rank)
decreasing_by
  · have hLe : r.ticker.due ≤ limit * 1000000 :=
      Nat.le_trans r.ticker.due_le_instant
        (Nat.mul_le_mul_right _ (Nat.le_trans (Nat.le_max_right _ _) _hDue))
    have hLt := r.ticker.lt_due_tick (max c.now r.ticker.instant)
    refine Prod.Lex.left _ _ ?_
    simp only [ask]
    omega
  · have hRank := r.rank_settle
    refine Prod.Lex.right _ ?_
    rw [_hActivity]
    exact Nat.lt_succ_of_le hRank

/-- Have the loop stop as soon as it can. -/
def stop (r : Refresh) : Refresh :=
  { r with
    stopping := true
    activity := match r.activity with
      | .waiting => .ended
      | activity => activity }

/-- When a loop that was told to stop at `now` ends, if it ever does. -/
def end? (r : Refresh) (now : Nat) : Option Nat :=
  match r.activity with
  | .waiting | .ended => some now
  | .listing due _ => due

end Refresh

end EventIntake.Capability
