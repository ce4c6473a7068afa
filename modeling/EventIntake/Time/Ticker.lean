import EventIntake.Time.Duration

/-!
# Tickers

A ticker is due again and again, a period apart.  A tick that is taken more than five milliseconds
late is not made up for: the next one is a whole period after it was taken.  So ticks never come
closer than a period less five milliseconds (`le_due_tick`).
-/

namespace EventIntake

structure Ticker where
  period : Duration
  positive : 0 < period.nanos
  /-- When the ticker is due, in nanoseconds. -/
  due : Nat

namespace Ticker

/-- A ticker whose first tick is a period after `now`. -/
def starting (period : Duration) (positive : 0 < period.nanos) (now : Nat) : Ticker :=
  ⟨period, positive, now * 1000000 + period.nanos⟩

/-- The first instant at which the tick can be taken. -/
def instant (t : Ticker) : Nat := (Duration.ofNanos t.due).millis

/-- The ticker after the tick that is due was taken at `now`. -/
def tick (t : Ticker) (now : Nat) : Ticker :=
  { t with
    due := (if t.due + 5000000 < now * 1000000 then now * 1000000 else t.due) + t.period.nanos }

theorem lt_due_tick (t : Ticker) (now : Nat) : t.due < (t.tick now).due := by
  have hPos := t.positive
  simp only [tick]
  split <;> omega

theorem le_due_tick (t : Ticker) (now : Nat) :
    now * 1000000 + t.period.nanos ≤ (t.tick now).due + 5000000 := by
  simp only [tick]
  split <;> omega

theorem due_le_instant (t : Ticker) : t.due ≤ t.instant * 1000000 :=
  (Duration.millis_le_iff (.ofNanos t.due) t.instant).1 (Nat.le_refl _)

end Ticker

end EventIntake
