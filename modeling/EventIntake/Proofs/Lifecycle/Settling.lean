import EventIntake.Proofs.Lifecycle.Weight

/-!
# Sessions settle

Where something is due, something can go on as soon as the clock is there, so the clock never moves
twice in a row.  Together with the weights this says that the bound of `Session.fuel` is never met:
a request is followed until it is answered and nothing more can happen, or until nothing is due any
more (`Session.run_settled`).  Whatever the steps and the moves of the clock keep holds then
(`Session.run_keeps`).
-/

namespace EventIntake.Lifecycle

variable {α : Type}

/-- The world with the clock moved to `t`. -/
def World.at (w : World α) (t : Nat) : World α := { w with now := t }

mutual

theorem Work.Waits.now_lt_nextDue {w : World α} {now t : Nat} {job : Work α}
    (h : Work.Waits w job) (ht : job.nextDue now = some t) : w.now < t := by
  cases h with
  | asleep hdue value rest => exact eq_of_after_eq_some ht ▸ hdue
  | hanging value rest => cases ht
  | untold hreport value rest => cases ht
  | closing h hdue tolerated ticket name stage value rest =>
    rcases earlier_eq_some ht with ht | ht
    · exact eq_of_after_eq_some ht ▸ hdue
    · exact h.now_lt_nextDue ht
  | deploying h hresults hdue deadline value rest =>
    rcases earlier_eq_some ht with ht | ht
    · exact eq_of_after_eq_some ht ▸ hdue
    · exact h.now_lt_workersDue ht

theorem Worker.Waits.now_lt_nextDue {w : World α} {now t : Nat} {worker : Worker α}
    (h : Worker.Waits w worker) (ht : worker.nextDue now = some t) : w.now < t := by
  cases h with
  | starting h number r => exact h.now_lt_nextDue ht
  | closing h hdue ticket name stage =>
    rcases earlier_eq_some ht with ht | ht
    · exact eq_of_after_eq_some ht ▸ hdue
    · exact h.now_lt_nextDue ht
  | settled result => cases ht

theorem WorkersWait.now_lt_workersDue {w : World α} {now t : Nat} {workers : List (Worker α)}
    (h : WorkersWait w workers) (ht : workersDue now workers = some t) : w.now < t := by
  cases h with
  | nil => cases ht
  | cons h hrest =>
    rcases earlier_eq_some ht with ht | ht
    · exact h.now_lt_nextDue ht
    · exact hrest.now_lt_workersDue ht

end

theorem Work.step_of_due {w : World α} {job : Work α} {t : Nat} (h : job.nextDue w.now = some t) :
    (job.step (w.at t)).isSome := by
  cases hstep : job.step (w.at t) with
  | none => exact absurd ((Work.step_waits hstep).now_lt_nextDue h) (Nat.lt_irrefl t)
  | some next => rfl

theorem Thread.step_of_due {w : World α} {u : Thread α} {t : Nat} (h : u.nextDue w.now = some t) :
    (u.step (w.at t)).isSome := by
  cases u with
  | trigger cause begun => cases h
  | finished => cases h
  | pass p =>
    simp only [Thread.nextDue] at h
    split at h
    · case h_1 c hcurrent =>
      simp only [Thread.step, Pass.step, hcurrent]
      rcases earlier_eq_some h with h | h
      · have hle : c.due ≤ (w.at t).now := Nat.le_of_eq (eq_of_after_eq_some h)
        split
        · rfl
        · rfl
        · simp [hle]
      · have hwork := Work.step_of_due h
        split
        · rfl
        · rfl
        · case h_3 hnone =>
          rw [hnone] at hwork
          cases hwork
    · cases h

/-- A thread that can go on keeps the world going. -/
theorem World.step_isSome {w : World α} {i : Nat} (h : (w.stepThread i).isSome) :
    w.step.isSome := by
  have hi : i < w.threads.length := by
    unfold World.stepThread at h
    split at h
    · case h_1 t ht => exact (List.getElem?_eq_some_iff.mp ht).1
    · cases h
  exact List.findSome?_isSome_iff.mpr ⟨i, List.mem_range.mpr hi, h⟩

theorem foldl_earlier {β : Type} {f : β → Option Nat} {l : List β} {due : Option Nat} {t : Nat}
    (h : l.foldl (fun due x => earlier due (f x)) due = some t) :
    due = some t ∨ ∃ x ∈ l, f x = some t := by
  induction l generalizing due with
  | nil => exact .inl h
  | cons x l ih =>
    rcases ih h with hdue | ⟨y, hy, hf⟩
    · rcases earlier_eq_some hdue with hdue | hx
      · exact .inl hdue
      · exact .inr ⟨x, List.mem_cons_self, hx⟩
    · exact .inr ⟨y, List.mem_cons_of_mem x hy, hf⟩

theorem World.step_of_due {w : World α} {t : Nat} (h : w.nextDue = some t) :
    (w.at t).step.isSome := by
  rcases foldl_earlier h with hnone | ⟨u, hu, hdue⟩
  · cases hnone
  · obtain ⟨i, hi⟩ := List.getElem?_of_mem hu
    have hthread : (w.at t).threads[i]? = some u := hi
    exact World.step_isSome (World.stepThread_isSome hthread (Thread.step_of_due hdue))

theorem Bootstrap.step_of_due {w : World α} {b : Bootstrap α} {t : Nat}
    (h : b.nextDue w.now = some t) : (b.step (w.at t)).isSome := by
  unfold Bootstrap.nextDue at h
  split at h
  · case h_1 name limit due work hstand =>
    simp only [Bootstrap.step, hstand]
    rcases earlier_eq_some h with h | h
    · have hle : due ≤ (w.at t).now := Nat.le_of_eq (eq_of_after_eq_some h)
      split
      · rfl
      · rfl
      · rfl
      · simp [hle]
    · have hwork := Work.step_of_due h
      split
      · rfl
      · rfl
      · rfl
      · case h_4 hnone =>
        rw [hnone] at hwork
        cases hwork
  · cases h
  · cases h

def Session.at (s : Session α) (t : Nat) : Session α := { s with world := s.world.at t }

theorem Waiting.step_of_due {s : Session α} {r : Waiting α} {t : Nat}
    (h : r.nextDue s.now = some t) : (r.step (s.at t)).isSome := by
  cases r with
  | work job =>
    have hjob := Work.step_of_due h
    simp only [Waiting.step, Session.at]
    split
    · rfl
    · rfl
    · rfl
    · case h_4 hnone =>
      rw [hnone] at hjob
      cases hjob
  | report due late =>
    have hle : due ≤ (s.at t).world.now := Nat.le_of_eq (eq_of_after_eq_some h)
    simp only [Waiting.step]
    split
    · rfl
    · simp [hle]
  | thread i => cases h
  | untilTime due =>
    have hle : due ≤ (s.at t).world.now := Nat.le_of_eq (eq_of_after_eq_some h)
    simp [Waiting.step, hle]
  | bootstrap single b =>
    have hb := Bootstrap.step_of_due h
    simp only [Waiting.step, Session.at]
    split
    · rfl
    · rfl
    · case h_3 hnone =>
      rw [hnone] at hb
      cases hb
  | answered reply => cases h

namespace Session

def nextDue (s : Session α) (r : Waiting α) : Option Nat :=
  earlier (r.nextDue s.now) s.world.nextDue

theorem step_eq_none {s : Session α} {r : Waiting α} (h : s.step r = none) :
    r.step s = none ∧ s.world.step = none := by
  unfold Session.step at h
  split at h
  · cases h
  · case h_2 hr => exact ⟨hr, Option.map_eq_none_iff.mp h⟩

theorem nextDue_le {s : Session α} {r : Waiting α} {t : Nat} (h : s.nextDue r = some t) :
    (∀ d, r.nextDue s.now = some d → t ≤ d) ∧ ∀ d, s.world.nextDue = some d → t ≤ d := by
  refine le_of_le_earlier fun d hd => ?_
  have hsame : some t = some d := h.symm.trans hd
  exact Nat.le_of_eq (Option.some.inj hsame)

theorem step_of_due {s : Session α} {r : Waiting α} {t : Nat} (h : s.nextDue r = some t) :
    ((s.at t).step r).isSome := by
  unfold step
  rcases earlier_eq_some h with h | h
  · have hr := Waiting.step_of_due h
    split
    · rfl
    · case h_2 hnone =>
      rw [hnone] at hr
      cases hr
  · split
    · rfl
    · rw [Option.isSome_map]
      exact World.step_of_due h

/-- Nothing can go on, and the request is answered or nothing is due. -/
def Settled (s : Session α) (r : Waiting α) : Prop :=
  s.step r = none ∧ ((∃ reply, r = .answered reply) ∨ s.nextDue r = none)

/-- One step, or one move of the clock while the request waits. -/
inductive Goes : Session α × Waiting α → Session α × Waiting α → Prop
  | step {s s' : Session α} {r r' : Waiting α} (h : s.step r = some (s', r')) : Goes (s, r) (s', r')
  | clock {s : Session α} {r : Waiting α} {t : Nat} (hr : ∀ reply, r ≠ .answered reply)
      (hstep : s.step r = none) (hdue : s.nextDue r = some t) : Goes (s, r) (s.at t, r)

theorem Goes.eq_of_step {s : Session α} {r : Waiting α} {next b : Session α × Waiting α}
    (h : Goes (s, r) b) (hstep : s.step r = some next) : b = next := by
  cases h with
  | step h =>
    rw [hstep] at h
    exact (Option.some.inj h).symm
  | clock _ h =>
    rw [hstep] at h
    cases h

theorem run_succ (fuel : Nat) (s : Session α) (r : Waiting α) :
    s.Settled r ∧ run (fuel + 1) s r = (s, r) ∨
      ∃ next, Goes (s, r) next ∧ run (fuel + 1) s r = run fuel next.1 next.2 := by
  cases hstep : s.step r with
  | some next =>
    refine .inr ⟨next, .step hstep, ?_⟩
    simp only [run, hstep]
  | none =>
    cases hdue : s.nextDue r with
    | none =>
      refine .inl ⟨⟨hstep, .inr hdue⟩, ?_⟩
      cases r with
      | answered reply => simp only [run, hstep]
      | _ => simp_all only [run, nextDue]
    | some t =>
      cases r with
      | answered reply =>
        refine .inl ⟨⟨hstep, .inl ⟨reply, rfl⟩⟩, ?_⟩
        simp only [run, hstep]
      | _ =>
        refine .inr ⟨(s.at t, _), .clock (fun reply h => by cases h) hstep hdue, ?_⟩
        simp_all only [run, nextDue]
        rfl

/-- **What the steps and the moves of the clock keep holds after a request.** -/
theorem run_keeps {J : Session α → Waiting α → Prop}
    (hgoes : ∀ {a b : Session α × Waiting α}, Goes a b → J a.1 a.2 → J b.1 b.2) (fuel : Nat)
    {s : Session α} {r : Waiting α} (h : J s r) : J (run fuel s r).1 (run fuel s r).2 := by
  induction fuel generalizing s r with
  | zero => exact h
  | succ fuel ih =>
    rcases run_succ fuel s r with ⟨-, hrun⟩ | ⟨next, hnext, hrun⟩
    · rw [hrun]
      exact h
    · rw [hrun]
      exact ih (hgoes hnext h)

theorem run_settled_of_le {fuel : Nat} {s : Session α} {r : Waiting α}
    (h : 2 * (r.weight + s.world.weight) + 2 ≤ fuel ∨
      2 * (r.weight + s.world.weight) + 1 ≤ fuel ∧ (s.step r).isSome) :
    (run fuel s r).1.Settled (run fuel s r).2 := by
  induction fuel generalizing s r with
  | zero => omega
  | succ fuel ih =>
    rcases run_succ fuel s r with ⟨hsettled, hrun⟩ | ⟨next, hnext, hrun⟩
    · rw [hrun]
      exact hsettled
    · rw [hrun]
      cases hnext with
      | @step s s' r r' hstep =>
        have hlt := step_weight_lt hstep
        have hbound : 2 * (r'.weight + s'.world.weight) + 2 ≤ fuel := by omega
        exact ih (.inl hbound)
      | @clock s r t hr hstep hdue =>
        -- the clock has moved, so the next round is a step
        have hsome := step_of_due hdue
        rcases h with h | ⟨-, h⟩
        · exact ih (.inr ⟨Nat.le_of_succ_le_succ h, hsome⟩)
        · rw [hstep] at h
          cases h

/-- **The fuel of a request is enough.** -/
theorem run_settled (s : Session α) (r : Waiting α) :
    (run (s.fuel r) s r).1.Settled (run (s.fuel r) s r).2 :=
  run_settled_of_le (.inl (Nat.le_refl _))

/-- The requests are made one after the other. -/
def serve (s : Session α) (requests : List (Request α)) : Session α :=
  requests.foldl (fun s r => (s.perform r).1) s

/-- **A request that what is kept leads to an answer is answered.** -/
theorem perform_keeps {J : Session α → Waiting α → Prop} (s : Session α) (r : Request α)
    (hbegin : J (s.begin r).1 (s.begin r).2)
    (hgoes : ∀ {a b : Session α × Waiting α}, Goes a b → J a.1 a.2 → J b.1 b.2)
    (hanswered : ∀ {s : Session α} {r : Waiting α}, J s r → s.Settled r →
      ∃ reply, r = .answered reply) :
    ∃ s' reply, s.perform r = (s', reply) ∧ J s' (.answered reply) ∧
      s'.Settled (.answered reply) := by
  have hkeeps := run_keeps hgoes ((s.begin r).1.fuel (s.begin r).2) hbegin
  have hsettled := run_settled (s.begin r).1 (s.begin r).2
  obtain ⟨reply, hreply⟩ := hanswered hkeeps hsettled
  refine ⟨_, reply, ?_, hreply ▸ hkeeps, hreply ▸ hsettled⟩
  unfold perform
  simp only
  generalize run _ _ _ = result at hreply
  obtain ⟨s', r'⟩ := result
  simp only at hreply
  subst hreply
  rfl

end Session

end EventIntake.Lifecycle
