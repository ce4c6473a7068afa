import EventIntake.Contract.WatchLoop
import Mathlib.Data.List.Count

/-!
# The loop of a watch, move by move

A loop wakes, reads, hands on what it has read and waits again, and between any two of these moves
it may be told to stop.  What one move does is said once (`WatchLoop.Goes`): a loop that was told to
stop does not wake any more, and only brings to its end the one check that may be under way.
-/

namespace EventIntake.WatchLoop

/-- What is seen of a watch. -/
inductive Event where
  | woken
  | called (contents : ByteArray) (result : Except String Unit)
  | checked (outcome : Observation)

def Event.isChecked : Event → Bool
  | .checked _ => true
  | .woken | .called _ _ => false

def Event.isCalled : Event → Bool
  | .called _ _ => true
  | .woken | .checked _ => false

def isChecking (l : WatchLoop) : Bool :=
  match l.stand with
  | .awake | .handling _ => true
  | .idle | .waiting | .ended => false

def wakes (l l' : WatchLoop) : List Event :=
  if l'.isChecking && !l.isChecking then [.woken] else []

/-- Start the loop, stop it, or both. -/
def heed (l : WatchLoop) (started stopped : Bool) : WatchLoop :=
  let l := if started then l.start else l
  if stopped then l.stop else l

variable {l l' : WatchLoop}

/-! ## One move -/

def underWay (l : WatchLoop) : Nat := if l.isChecking then 1 else 0

theorem underWay_of_isChecking (h : l.isChecking = true) : l.underWay = 1 := if_pos h

/-- What one move of the loop does: it neither starts the loop nor tells it to stop, a loop that
does not run stays as it is, and one that was told to stop only brings to an end what is under
way. -/
structure Goes (l l' : WatchLoop) (events : List Event) : Prop where
  stopping : l'.stopping = l.stopping
  idle : l'.isIdle = l.isIdle
  rest : l.isRunning = false → l'.isRunning = false ∧ events = []
  stops : l.stopping = true → l.stand.isWaiting = false → l'.stand.isWaiting = false ∧
    .woken ∉ events ∧ events.countP Event.isChecked + l'.underWay = l.underWay

theorem Goes.refl (l : WatchLoop) : l.Goes l [] :=
  ⟨rfl, rfl, fun h => ⟨h, rfl⟩, fun _ h => ⟨h, List.not_mem_nil, Nat.zero_add _⟩⟩

theorem hint_goes (l : WatchLoop) : l.Goes l.hint [] :=
  ⟨rfl, rfl, fun h => ⟨h, rfl⟩, fun _ h => ⟨h, List.not_mem_nil, Nat.zero_add _⟩⟩

theorem wakes_self (l : WatchLoop) : l.wakes l = [] := by simp [wakes]

theorem goes_awake (h : l.stand.isWaiting = true) (hints : Nat) :
    l.Goes { l with stand := .awake, hints } (l.wakes { l with stand := .awake, hints }) := by
  obtain ⟨watch, stand, hints, stopping⟩ := l
  cases stand with
  | waiting => exact ⟨rfl, rfl, (nomatch ·), fun _ => (nomatch ·)⟩
  | _ => cases h

theorem tick_goes (l : WatchLoop) : l.Goes l.tick (l.wakes l.tick) := by
  unfold tick
  split
  · case isTrue h => exact goes_awake h _
  · rw [wakes_self]
    exact .refl l

theorem drain_goes (l : WatchLoop) : l.Goes l.drain (l.wakes l.drain) := by
  unfold drain
  split
  · case isTrue h => exact goes_awake h.1 _
  · rw [wakes_self]
    exact .refl l

theorem goes_afterCheck (h : l.isChecking = true) (watch : Watch) {events : List Event}
    (hwoken : .woken ∉ events) (hone : events.countP Event.isChecked = 1) :
    l.Goes { l with watch, stand := l.afterCheck } events := by
  have hrunning : l.isRunning = true := by
    unfold isChecking at h
    unfold isRunning
    split <;> simp_all
  have hidle : l.isIdle = false := by
    unfold isRunning at hrunning
    unfold isIdle Stand.isIdle
    split <;> simp_all
  refine ⟨rfl, ?_, fun hnot => ?_, fun hstopping _ => ⟨?_, hwoken, ?_⟩⟩
  · rw [hidle]
    unfold afterCheck isIdle
    split <;> rfl
  · rw [hrunning] at hnot
    cases hnot
  · simp only [afterCheck, hstopping, if_true]
    rfl
  · rw [hone, underWay_of_isChecking h]
    simp [underWay, isChecking, afterCheck, hstopping]

theorem read_goes (l : WatchLoop) (contents : Except ReadError ByteArray) :
    l.Goes (l.read contents).1 (((l.read contents).2.map Event.checked).toList) := by
  unfold read
  split
  · case h_1 hstand =>
    have hchecking : l.isChecking = true := by rw [isChecking, hstand]
    split
    · case h_1 outcome hlook =>
      exact goes_afterCheck hchecking l.watch (by simp) rfl
    · case h_2 found hlook =>
      refine ⟨rfl, ?_, fun hnot => ?_, fun _ _ => ⟨rfl, List.not_mem_nil, ?_⟩⟩
      · simp [isIdle, hstand, Stand.isIdle]
      · simp [isRunning, hstand] at hnot
      · rw [underWay_of_isChecking hchecking]
        rfl
  · exact .refl l

theorem handled_goes {contents : ByteArray} (hstand : l.stand = .handling contents)
    (result : Except String Unit) :
    l.Goes (l.handled result).1
      (.called contents result :: ((l.handled result).2.map Event.checked).toList) := by
  have hchecking : l.isChecking = true := by rw [isChecking, hstand]
  unfold handled
  rw [hstand]
  exact goes_afterCheck hchecking _ (by simp) rfl

theorem heed_isIdle (l : WatchLoop) (stopped : Bool) : (l.heed true stopped).isIdle = false := by
  have hstart : l.start.isIdle = false := by
    unfold start
    split
    · rfl
    · case isFalse h => exact Bool.eq_false_iff.mpr h
  cases stopped with
  | false => exact hstart
  | true =>
    simp only [heed, if_true, stop, isIdle]
    split
    · rfl
    · exact hstart

theorem heed_stopping (l : WatchLoop) (started : Bool) :
    (l.heed started true).stopping = true ∧ (l.heed started true).stand.isWaiting = false := by
  refine ⟨rfl, ?_⟩
  simp only [heed, if_true]
  generalize (if started = true then l.start else l) = l
  unfold stop
  split
  · rfl
  · case isFalse h => exact Bool.eq_false_iff.mpr h

theorem heed_eq (hidle : l.isIdle = false) (hstopping : l.stopping = true)
    (hwaiting : l.stand.isWaiting = false) (started stopped : Bool) :
    l.heed started stopped = l := by
  have hstart : l.start = l := by rw [start, hidle, if_neg Bool.false_ne_true]
  have hstop : l.stop = l := by
    simp only [stop, hwaiting, Bool.false_eq_true, if_false]
    rw [← hstopping]
  cases started <;> cases stopped <;> simp [heed, hstart, hstop]

end EventIntake.WatchLoop
