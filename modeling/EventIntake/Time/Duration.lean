/-!
# Durations

A duration is a number of nanoseconds.  Clocks run in whole milliseconds, so a timer that falls
between two of them is due at the later one: `millis` rounds up, and `millis_le_iff` says that it is
the least whole number of milliseconds that is long enough.

The written form names the largest unit whose integer part is not zero and drops the zeros at the
end of the fraction: `5s`, `1.5s`, `50ms`, `1.000001ms`, `1.5µs`, `100ns`, and `0ns`.
-/

namespace EventIntake

structure Duration where
  nanos : Nat
  deriving DecidableEq, Repr, Inhabited

namespace Duration

def ofNanos (n : Nat) : Duration := ⟨n⟩

def ofMillis (n : Nat) : Duration := ⟨n * 1000000⟩

def ofSecs (n : Nat) : Duration := ⟨n * 1000000000⟩

/-- The least number of whole milliseconds that is not shorter. -/
def millis (d : Duration) : Nat := (d.nanos + 999999) / 1000000

/-- The number of whole milliseconds that have passed when `d` has. -/
def floorMillis (d : Duration) : Nat := d.nanos / 1000000

instance : Add Duration := ⟨fun a b => ⟨a.nanos + b.nanos⟩⟩

instance : Max Duration := ⟨fun a b => if a.nanos ≤ b.nanos then b else a⟩

theorem millis_le_iff (d : Duration) (n : Nat) : d.millis ≤ n ↔ d.nanos ≤ n * 1000000 := by
  unfold millis
  omega

theorem millis_mono {a b : Duration} (h : a.nanos ≤ b.nanos) : a.millis ≤ b.millis :=
  (millis_le_iff a _).mpr (Nat.le_trans h ((millis_le_iff b _).mp (Nat.le_refl _)))

theorem nanos_le_max_right (a b : Duration) : b.nanos ≤ (max a b).nanos := by
  change b.nanos ≤ (if a.nanos ≤ b.nanos then b else a).nanos
  split <;> omega

theorem nanos_max_le {a b : Duration} {n : Nat} (ha : a.nanos ≤ n) (hb : b.nanos ≤ n) :
    (max a b).nanos ≤ n := by
  change (if a.nanos ≤ b.nanos then b else a).nanos ≤ n
  split <;> assumption

@[simp] theorem millis_ofMillis (n : Nat) : (ofMillis n).millis = n := by
  simp only [millis, ofMillis]
  omega

theorem millis_ofSecs (n : Nat) : (ofSecs n).millis = n * 1000 := by
  simp only [millis, ofSecs]
  omega

/-- The first `places` decimal digits of `part / 10 ^ places`, without the zeros at the end. -/
def fraction (part places : Nat) : List Char :=
  let digits := (Nat.toDigits 10 part)
  let padded := List.replicate (places - digits.length) '0' ++ digits
  (padded.reverse.dropWhile (· == '0')).reverse

/-- `whole` and a fraction of `part / 10 ^ places`, with the name of the unit. -/
def render (whole part places : Nat) (unit : String) : String :=
  match fraction part places with
  | [] => toString whole ++ unit
  | digits => toString whole ++ "." ++ String.ofList digits ++ unit

def text (d : Duration) : String :=
  if 1000000000 ≤ d.nanos then render (d.nanos / 1000000000) (d.nanos % 1000000000) 9 "s"
  else if 1000000 ≤ d.nanos then render (d.nanos / 1000000) (d.nanos % 1000000) 6 "ms"
  else if 1000 ≤ d.nanos then render (d.nanos / 1000) (d.nanos % 1000) 3 "µs"
  else render d.nanos 0 0 "ns"

end Duration

end EventIntake
