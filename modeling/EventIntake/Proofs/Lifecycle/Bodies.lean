import EventIntake.Proofs.Lifecycle.Held

/-!
# Bodies of phases

The body of a phase hands resources over, sleeps, fails or hangs.  While resources are accepted, its
course decides when it ends and how, and `handedOver` which resources it has handed over by its
limit: those that it comes to before its end and no later than the limit.
-/

namespace EventIntake.Lifecycle

variable {α : Type}

/-- Whether an action hands a resource over, sleeps, fails or hangs. -/
def Action.isPlain : Action α → Bool
  | .register _ | .sleep _ | .fail _ | .hang => true
  | _ => false

/-- The resources that a body hands over within `limit`. -/
def handedOver (limit : Nat) : List (Action α) → List (Resource (Action α))
  | [] => []
  | .register r :: rest => r :: handedOver limit rest
  | .sleep time :: rest =>
    if time.millis ≤ limit then handedOver (limit - time.millis) rest else []
  | .fail _ :: _ | .hang :: _ => []
  | _ :: rest => handedOver limit rest

inductive Work.Plain : Work α → Prop
  | running (value : Value α) (rest : List (Action α)) (h : ∀ a ∈ rest, a.isPlain) :
      Plain (.mk .none value rest)
  | asleep (due : Nat) (value : Value α) (rest : List (Action α)) (h : ∀ a ∈ rest, a.isPlain) :
      Plain (.mk (.untilTime due) value rest)
  | hanging (value : Value α) (rest : List (Action α)) : Plain (.mk .forever value rest)

/-- What a body under way has still to hand over by `limit`. -/
def Work.handsOver (now limit : Nat) : Work α → List (Resource (Action α))
  | .mk .none _ rest => handedOver (limit - now) rest
  | .mk (.untilTime due) _ rest =>
    if max now due ≤ limit then handedOver (limit - max now due) rest else []
  | _ => []

variable {closeTimeout : Duration} {rs : List (Resource (Action α))} {w w' : World α}

/-- What one step of a body does to what is shared: it hands at most one resource over. -/
inductive Work.Hands (limit : Nat) (w : World α) (job : Work α) : World α → Stepped α → Prop
  | on {job' : Work α} (h : job'.Plain)
      (hsame : job'.handsOver w.now limit = job.handsOver w.now limit) :
      Hands limit w job w (.inl job')
  | handed {job' : Work α} (h : job'.Plain) (r : Resource (Action α))
      (hfirst : job.handsOver w.now limit = r :: job'.handsOver w.now limit) :
      Hands limit w job (w.register r).1 (.inl job')
  | done {result : Except String (Value α)} (hnone : job.handsOver w.now limit = []) :
      Hands limit w job w (.inr result)

theorem Work.Plain.step {limit : Nat} {job : Work α} (hjob : job.Plain)
    (hacc : w.coordinator.accepting = true) (hlimit : w.now ≤ limit) {next : Stepped α}
    (h : job.step w = some (w', next)) : Work.Hands limit w job w' next := by
  have hsteps := Work.step_steps h
  cases hjob with
  | running value rest hrest =>
    cases hsteps with
    | finish => exact .done rfl
    | begin a value rest =>
      have hplain : a.isPlain := hrest a List.mem_cons_self
      have hrest' : ∀ a ∈ rest, a.isPlain := fun b hb => hrest b (List.mem_cons_of_mem a hb)
      cases a with
      | register r =>
        have hbegin : (Action.register r).begin w value rest =
            ((w.register r).1, .inl (.mk .none value rest)) := by
          simp only [Action.begin, World.register_of_accepting hacc]
        rw [hbegin]
        exact .handed (.running value rest hrest') r rfl
      | sleep time =>
        refine .on (.asleep _ value rest hrest') ?_
        have hmax : max w.now (w.dueIn time) = w.now + time.millis :=
          Nat.max_eq_right (Nat.le_add_right _ _)
        simp only [Work.handsOver, handedOver, hmax]
        by_cases htime : time.millis ≤ limit - w.now
        · have hle : w.now + time.millis ≤ limit := by omega
          rw [if_pos hle, if_pos htime, Nat.sub_sub]
        · have hnot : ¬ w.now + time.millis ≤ limit := by omega
          rw [if_neg hnot, if_neg htime]
      | fail message => exact .done rfl
      | hang => exact .on (.hanging value rest) rfl
      | _ => cases hplain
  | asleep due value rest hrest =>
    cases hsteps with
    | wake hdue =>
      refine .on (.running value rest hrest) ?_
      simp only [Work.handsOver, Nat.max_eq_left hdue]
      rw [if_pos hlimit]
  | hanging value rest => cases hsteps

/-- A body that waits hands nothing over until the clock has come to its next due time. -/
theorem Work.Plain.handsOver_at {limit t : Nat} {job : Work α} (hjob : job.Plain)
    (h : job.step w = none) (hnext : ∀ d, job.nextDue w.now = some d → t ≤ d) :
    job.handsOver t limit = job.handsOver w.now limit := by
  have hwaits := Work.step_waits h
  cases hjob with
  | running value rest hrest => cases hwaits
  | asleep due value rest hrest =>
    cases hwaits with
    | asleep hdue =>
      rw [Work.handsOver, Work.handsOver, max_due_eq hdue (hnext due (after_of_lt hdue))]
  | hanging value rest => rfl

/-- At its limit a body that waits has nothing more to hand over in time. -/
theorem Work.Plain.handsOver_eq_nil {limit : Nat} {job : Work α} (hjob : job.Plain)
    (h : job.step w = none) (hlimit : limit ≤ w.now) : job.handsOver w.now limit = [] := by
  have hwaits := Work.step_waits h
  cases hjob with
  | running value rest hrest => cases hwaits
  | asleep due value rest hrest =>
    cases hwaits with
    | asleep hdue =>
      have hlate : ¬ max w.now due ≤ limit := by omega
      rw [Work.handsOver, if_neg hlate]
  | hanging value rest => rfl

end EventIntake.Lifecycle
