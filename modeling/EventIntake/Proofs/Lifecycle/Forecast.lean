import EventIntake.Proofs.Lifecycle.Course
import EventIntake.Proofs.Lifecycle.Settling

/-!
# When work ends

`Work.ends` foretells at which instant work that is under way ends, and how.  The forecast is true
to what happens: no step changes it (`Work.step_ends`), no move of the clock does (`Work.ends_at`),
and work that waits is due no later than it ends (`Work.nextDue_le_ends`), so the clock cannot pass
by its end.
-/

namespace EventIntake.Lifecycle

variable {α β : Type}

mutual

/-- When and how the work ends, or nothing when it never does. -/
def Work.ends (g : Regime) (now : Nat) : Work α → Course (Except String (Value α))
  | .mk pause value rest =>
    (pause.ends g now value).andThen fun value => actionsCourse g rest value

/-- When the present action ends, and the value it leaves. -/
def Pause.ends (g : Regime) (now : Nat) : Pause α → Value α → Course (Except String (Value α))
  | .none, value => some (now, .ok value)
  | .untilTime due, value => some (max now due, .ok value)
  | .forever, _ | .report, _ => none
  | .refusal tolerated ⟨_, name, _, due, work⟩, value =>
    some (((work.ends g now).cutOff (max now due)).1,
      if tolerated then .ok value else .error (refusalMessage name))
  | .deployment deadline due workers, _ =>
    some (deployed deadline workers.length
      ((Course.latest now (workersEnds g now workers)).cutOff (max now due)))

def Worker.ends (g : Regime) (now : Nat) : Worker α → Course (Except String Unit)
  | .waiting number start r =>
    ((actionsCourse g start .nothing).enroll g number r.name (resourceCourse g r).1).delay now
  | .starting number start r => (start.ends g now).enroll g number r.name (resourceCourse g r).1
  | .refused ⟨_, name, _, due, work⟩ =>
    some (((work.ends g now).cutOff (max now due)).1, .error (refusalMessage name))
  | .settled result => some (now, result)

def workersEnds (g : Regime) (now : Nat) : List (Worker α) → List (Course (Except String Unit))
  | [] => []
  | worker :: rest => worker.ends g now :: workersEnds g now rest

end

variable {g : Regime} {w w' : World α}

/-- When a close under way ends, and how: nothing when it is cut off. -/
def Closing.ends (g : Regime) (now : Nat) (c : Closing (Work α)) :
    Nat × Option (Except String (Value α)) :=
  (c.work.ends g now).cutOff (max now c.due)

def Stepped.ends (g : Regime) (now : Nat) : Stepped α → Course (Except String (Value α))
  | .inl job => job.ends g now
  | .inr result => some (now, result)

theorem Work.ends_none (g : Regime) (now : Nat) (value : Value α) (rest : List (Action α)) :
    (Work.mk .none value rest).ends g now = (actionsCourse g rest value).delay now := by
  rw [Work.ends, Pause.ends, Course.andThen]

theorem World.beginClose_ends (hw : w.Under g) (ticket : Nat) (r : Resource (Action α)) :
    (w.beginClose ticket r).2.ends g w.now =
      (w.now + (resourceCourse g r).1, (resourceCourse g r).2) := by
  have hdue : max w.now (w.now + g.closeTimeout.millis) = w.now + g.closeTimeout.millis :=
    Nat.max_eq_right (Nat.le_add_right _ _)
  rw [resourceCourse_eq, ← Course.cutOff_delay, ← hdue, ← hw.closeTimeout]
  rfl

/-! ## Due times -/

mutual

theorem Work.lt_nextDue {now t : Nat} : ∀ {job : Work α}, job.nextDue now = some t → now < t
  | .mk pause value rest, h => by
    match pause with
    | .none => cases h
    | .forever => cases h
    | .report => cases h
    | .untilTime due => exact lt_of_after_eq_some h
    | .refusal tolerated ⟨ticket, name, stage, due, close⟩ =>
      rcases earlier_eq_some h with h | h
      · exact lt_of_after_eq_some h
      · exact Work.lt_nextDue h
    | .deployment deadline due workers =>
      rcases earlier_eq_some h with h | h
      · exact lt_of_after_eq_some h
      · exact lt_workersDue h

theorem Worker.lt_nextDue {now t : Nat} : ∀ {worker : Worker α},
    worker.nextDue now = some t → now < t
  | .waiting number start r, h => by cases h
  | .starting number start r, h => Work.lt_nextDue h
  | .refused ⟨ticket, name, stage, due, close⟩, h => by
    rcases earlier_eq_some h with h | h
    · exact lt_of_after_eq_some h
    · exact Work.lt_nextDue h
  | .settled r, h => by cases h

theorem lt_workersDue {now t : Nat} : ∀ {workers : List (Worker α)},
    workersDue now workers = some t → now < t
  | [], h => by cases h
  | worker :: rest, h => by
    rcases earlier_eq_some h with h | h
    · exact Worker.lt_nextDue h
    · exact lt_workersDue h

end

theorem earlier_le_cutOff {now due : Nat} {c : Course β} {next : Option Nat} (hdue : now < due)
    (hnext : ∀ t b, c = some (t, b) → t ≤ due → ∃ d, next = some d ∧ d ≤ t) :
    ∃ d, earlier (after now due) next = some d ∧ d ≤ (c.cutOff (max now due)).1 := by
  rw [after_of_lt hdue, Nat.max_eq_right (Nat.le_of_lt hdue)]
  rcases c.cutOff_cases due with hcut | ⟨t, b, hc, ht, hcut⟩
  · rw [hcut]
    exact earlier_le_left due next
  · obtain ⟨d, hd, hle⟩ := hnext t b hc ht
    rw [hcut, hd]
    obtain ⟨d', hd', hle'⟩ := earlier_le_right d (some due)
    exact ⟨d', hd', Nat.le_trans hle' hle⟩

theorem Work.nextDue_le_of_pause {now t : Nat} {pause : Pause α} {value : Value α}
    {rest : List (Action α)} {r : Except String (Value α)}
    (hends : (Work.mk pause value rest).ends g now = some (t, r))
    (hpause : ∀ t' r', pause.ends g now value = some (t', r') →
      ∃ d, pause.nextDue now = some d ∧ d ≤ t') :
    ∃ d, (Work.mk pause value rest).nextDue now = some d ∧ d ≤ t := by
  rw [Work.ends] at hends
  obtain ⟨t', r', hends', hle⟩ := Course.le_of_andThen hends
  obtain ⟨d, hd, hle'⟩ := hpause t' r' hends'
  exact ⟨d, hd, Nat.le_trans hle' hle⟩

mutual

theorem Work.Waits.nextDue_le_ends {job : Work α} {t : Nat} {r : Except String (Value α)}
    (h : Work.Waits w job) (hends : job.ends g w.now = some (t, r)) :
    ∃ d, job.nextDue w.now = some d ∧ d ≤ t := by
  cases h with
  | @asleep due hdue value rest =>
    refine Work.nextDue_le_of_pause hends fun t' r' hpause => ?_
    cases hpause
    exact ⟨due, after_of_lt hdue, Nat.le_max_right _ _⟩
  | hanging value rest => cases hends
  | untold hreport value rest => cases hends
  | closing h hdue tolerated ticket name stage value rest =>
    refine Work.nextDue_le_of_pause hends fun t' r' hpause => ?_
    cases hpause
    exact earlier_le_cutOff hdue fun t b hc _ => h.nextDue_le_ends hc
  | deploying h hresults hdue deadline value rest =>
    refine Work.nextDue_le_of_pause hends fun t' r' hpause => ?_
    have hcut := earlier_le_cutOff hdue fun t b hc _ => h.due_le_latest hresults hc
    obtain ⟨d, hd, hle⟩ := hcut
    refine ⟨d, hd, ?_⟩
    have htime := congrArg Prod.fst (Option.some.inj hpause)
    rw [deployed_fst] at htime
    exact Nat.le_trans hle (Nat.le_of_eq htime)

theorem Worker.Waits.nextDue_le_ends {worker : Worker α} {t : Nat} {r : Except String Unit}
    (h : Worker.Waits w worker) (hends : worker.ends g w.now = some (t, r)) :
    (∃ result, worker = .settled result) ∨ ∃ d, worker.nextDue w.now = some d ∧ d ≤ t := by
  cases h with
  | starting h number resource =>
    obtain ⟨t', r', hends', hle⟩ := Course.le_of_enroll hends
    obtain ⟨d, hd, hd'⟩ := h.nextDue_le_ends hends'
    exact .inr ⟨d, hd, Nat.le_trans hd' hle⟩
  | closing h hdue ticket name stage =>
    cases hends
    exact .inr (earlier_le_cutOff hdue fun t b hc _ => h.nextDue_le_ends hc)
  | settled result => exact .inl ⟨result, rfl⟩

theorem WorkersWait.due_le_latest {workers : List (Worker α)} {t : Nat}
    {rs : List (Except String Unit)} (h : WorkersWait w workers)
    (hresults : Worker.results workers = none)
    (hends : Course.latest w.now (workersEnds g w.now workers) = some (t, rs)) :
    ∃ d, workersDue w.now workers = some d ∧ d ≤ t := by
  cases h with
  | nil => cases hresults
  | @cons worker rest h hrest =>
    obtain ⟨t₁, r₁, t₂, rs₂, hworker, hlater, rfl, -⟩ := Course.latest_cons_eq_some hends
    rcases h.nextDue_le_ends hworker with ⟨result, rfl⟩ | ⟨d, hd, hle⟩
    · have hresults' : Worker.results rest = none := by
        simpa [Worker.results] using hresults
      obtain ⟨d, hd, hle⟩ := hrest.due_le_latest hresults' hlater
      exact ⟨d, hd, Nat.le_trans hle (Nat.le_max_right _ _)⟩
    · obtain ⟨d', hd', hle'⟩ := earlier_le_left d (workersDue w.now rest)
      refine ⟨d', ?_, Nat.le_trans hle' (Nat.le_trans hle (Nat.le_max_left _ _))⟩
      rw [workersDue, hd, hd']

end

theorem Work.nextDue_le_ends {job : Work α} {t : Nat} {r : Except String (Value α)}
    (h : job.step w = none) (hends : job.ends g w.now = some (t, r)) :
    ∃ d, job.nextDue w.now = some d ∧ d ≤ t :=
  (Work.step_waits h).nextDue_le_ends hends

/-! ## Moves of the clock -/

theorem max_due_eq {now due t : Nat} (hnow : now < due) (ht : t ≤ due) :
    max t due = max now due := by
  omega

mutual

theorem Work.Waits.ends_at {t : Nat} (hnow : w.now ≤ t) {job : Work α} (h : Work.Waits w job)
    (hnext : ∀ d, job.nextDue w.now = some d → t ≤ d) : job.ends g t = job.ends g w.now := by
  rw [Work.ends.eq_def, Work.ends.eq_def]
  cases h with
  | @asleep due hdue value rest =>
    simp only [Pause.ends]
    rw [max_due_eq hdue (hnext due (after_of_lt hdue))]
  | hanging value rest => rfl
  | untold hreport value rest => rfl
  | @closing job due h hdue tolerated ticket name stage value rest =>
    obtain ⟨hcut, hinner⟩ := le_of_le_earlier hnext
    simp only [Pause.ends]
    rw [max_due_eq hdue (hcut due (after_of_lt hdue)), h.ends_at hnow hinner]
  | @deploying workers due h hresults hdue deadline value rest =>
    obtain ⟨hcut, hinner⟩ := le_of_le_earlier hnext
    have hlatest := h.latest_ends_at hnow hinner
    have hsame : Course.latest t (workersEnds g t workers) =
        Course.latest w.now (workersEnds g w.now workers) := by
      rw [hlatest]
      cases hold : Course.latest w.now (workersEnds g w.now workers) with
      | none => rfl
      | some e =>
        -- one of the workers still waits, and the clock does not pass it
        obtain ⟨d, hd, hle⟩ := h.due_le_latest hresults hold
        rw [Option.map_some, Nat.max_eq_right (Nat.le_trans (hinner d hd) hle)]
    simp only [Pause.ends]
    rw [max_due_eq hdue (hcut due (after_of_lt hdue)), hsame]

theorem Worker.Waits.ends_at {t : Nat} (hnow : w.now ≤ t) {worker : Worker α}
    (h : Worker.Waits w worker) (hnext : ∀ d, worker.nextDue w.now = some d → t ≤ d) :
    (∃ result, worker = .settled result) ∨ worker.ends g t = worker.ends g w.now := by
  cases h with
  | starting h number r =>
    exact .inr (by rw [Worker.ends, Worker.ends, h.ends_at hnow hnext])
  | @closing job due h hdue ticket name stage =>
    obtain ⟨hcut, hinner⟩ := le_of_le_earlier hnext
    refine .inr ?_
    rw [Worker.ends, Worker.ends, max_due_eq hdue (hcut due (after_of_lt hdue)),
      h.ends_at hnow hinner]
  | settled result => exact .inl ⟨result, rfl⟩

theorem WorkersWait.latest_ends_at {t : Nat} (hnow : w.now ≤ t) {workers : List (Worker α)}
    (h : WorkersWait w workers) (hnext : ∀ d, workersDue w.now workers = some d → t ≤ d) :
    Course.latest t (workersEnds g t workers) =
      (Course.latest w.now (workersEnds g w.now workers)).map fun e => (max t e.1, e.2) := by
  cases h with
  | nil =>
    rw [workersEnds, workersEnds, Course.latest, Course.latest, Option.map_some,
      Nat.max_eq_left hnow]
  | @cons worker rest h hrest =>
    obtain ⟨hworker, hlater⟩ := le_of_le_earlier hnext
    have ih := hrest.latest_ends_at hnow hlater
    rw [workersEnds, workersEnds]
    rcases h.ends_at hnow hworker with ⟨result, rfl⟩ | hsame
    · rw [Worker.ends, Worker.ends, Course.latest, Course.latest, ih]
      cases Course.latest w.now (workersEnds g w.now rest) with
      | none => rfl
      | some e =>
        have hmax : max t (max w.now e.1) = max t e.1 := by omega
        simp [hmax]
    · rw [hsame]
      match Worker.ends g w.now worker with
      | none => rfl
      | some (d, b) =>
        rw [Course.latest, Course.latest, ih]
        cases Course.latest w.now (workersEnds g w.now rest) with
        | none => rfl
        | some e => simp [Nat.max_left_comm]

end

/-- The clock does not change when waiting work ends, if it moves no further than the next due
time. -/
theorem Work.ends_at {t : Nat} (hnow : w.now ≤ t) {job : Work α} (h : job.step w = none)
    (hnext : ∀ d, job.nextDue w.now = some d → t ≤ d) : job.ends g t = job.ends g w.now :=
  (Work.step_waits h).ends_at hnow hnext

/-! ## Steps -/

/-- A resource that is handed over is accepted, or closed under the timeout, as the regime has
it. -/
theorem World.register_cases (hw : w.Under g) (r : Resource (Action α)) :
    (g.accepting = true ∧ ∃ w', w.register r = (w', none)) ∨
      g.accepting = false ∧ ∃ w' c, w.register r = (w', some c) ∧ c.name = r.name ∧
        c.ends g w.now = (w.now + (resourceCourse g r).1, (resourceCourse g r).2) := by
  cases hacc : w.coordinator.accepting with
  | true => exact .inl ⟨hw.accepting ▸ hacc, _, register_of_accepting hacc r⟩
  | false =>
    refine .inr ⟨hw.accepting ▸ hacc, _, _, register_of_refusing hacc r, rfl, ?_⟩
    exact World.beginClose_ends (w := { w with coordinator := { w.coordinator with
      issued := w.coordinator.issued + 1 } }) ⟨hw.closeTimeout, hw.accepting, hw.report⟩ _ r

theorem workersEnds_waiting (g : Regime) (now i : Nat)
    (workers : List (List (Action α) × Resource (Action α))) :
    workersEnds g now ((workers.zipIdx i).map fun ((start, r), i) => Worker.waiting i start r) =
      (workersCourses g workers i).map (Course.delay now) := by
  induction workers generalizing i with
  | nil => rfl
  | cons worker rest ih =>
    obtain ⟨start, r⟩ := worker
    rw [List.zipIdx_cons, List.map_cons, workersEnds, ih, workersCourses, List.map_cons]
    rfl

theorem Action.begin_ends (hw : w.Under g) (value : Value α) (rest : List (Action α))
    (a : Action α) : (a.begin w value rest).2.ends g w.now =
      (actionsCourse g (a :: rest) value).delay w.now := by
  rw [actionsCourse, Course.delay_andThen]
  cases a with
  | log text =>
    rw [Action.course]
    rfl
  | state =>
    rw [Action.course]
    rfl
  | registered =>
    rw [Action.course]
    rfl
  | sleep time =>
    have hmax : max w.now (w.dueIn time) = w.now + time.millis :=
      Nat.max_eq_right (Nat.le_add_right _ _)
    rw [Action.course]
    change Course.andThen (some (max w.now (w.dueIn time), .ok value)) _ = _
    rw [hmax]
    rfl
  | fail message =>
    rw [Action.course]
    rfl
  | hang =>
    rw [Action.course]
    rfl
  | value v =>
    rw [Action.course]
    rfl
  | register r =>
    rw [Action.course, Action.begin]
    -- what is accepted takes no time, what is refused takes the time of its close
    rcases World.register_cases hw r with ⟨hacc, w', hr⟩ | ⟨hacc, w', c, hr, hname, hc⟩
    · simp only [hr, hacc, if_true]
      rfl
    · simp only [hr, hacc, Bool.false_eq_true, if_false]
      change some ((c.ends g w.now).1, Except.error (refusalMessage c.name)) = _
      rw [hc, hname]
      rfl
  | tryRegister r =>
    rw [Action.course, Action.begin]
    rcases World.register_cases hw r with ⟨hacc, w', hr⟩ | ⟨hacc, w', c, hr, hname, hc⟩
    · simp only [hr, hacc, if_true]
      rfl
    · simp only [hr, hacc, Bool.false_eq_true, if_false]
      change Course.andThen (some ((c.ends g w.now).1, .ok value)) _ = _
      rw [hc]
      rfl
  | trigger cause =>
    rw [Action.course]
    rfl
  | spawnTrigger cause =>
    rw [Action.course]
    rfl
  | deploy deadline workers =>
    have hmax : max w.now (w.dueIn deadline) = w.now + deadline.millis :=
      Nat.max_eq_right (Nat.le_add_right _ _)
    have hlatest := Course.latest_delay w.now 0 (workersCourses g workers 0)
    rw [Nat.add_zero] at hlatest
    rw [Action.course]
    change Course.andThen (some (deployed deadline
      (workers.zipIdx.map fun ((start, r), i) => Worker.waiting i start r).length
      ((Course.latest w.now (workersEnds g w.now
        (workers.zipIdx.map fun ((start, r), i) => Worker.waiting i start r))).cutOff
          (max w.now (w.dueIn deadline))))) _ = _
    rw [workersEnds_waiting, hlatest, hmax, Course.cutOff_delay, deployed_add, List.length_map,
      List.length_zipIdx]
    rfl

theorem Work.afterRefusal_ends (w : World α) (now : Nat) (tolerated : Bool) (c : Closing (Work α))
    (result : Option (Except String (Value α))) (value : Value α) (rest : List (Action α)) :
    (Work.afterRefusal w tolerated c result value rest).2.ends g now =
      (if tolerated then some (now, .ok value) else some (now, .error (refusalMessage c.name)) :
        Course (Except String (Value α))).andThen fun value => actionsCourse g rest value := by
  cases tolerated with
  | true => rfl
  | false => rfl

theorem Course.cutOff_now (now due : Nat) (b : β) :
    Course.cutOff (max now due) (some (now, b)) = (now, some b) := if_pos (Nat.le_max_left _ _)

theorem Work.cutOff_of_due {job : Work α} {due : Nat} (h : job.step w = none) (hdue : due ≤ w.now) :
    (job.ends g w.now).cutOff (max w.now due) = (w.now, none) := by
  rw [Nat.max_eq_left hdue]
  rcases (job.ends g w.now).cutOff_cases w.now with hcut | ⟨t, r, hends, ht, -⟩
  · exact hcut
  · obtain ⟨d, hd, hle⟩ := Work.nextDue_le_ends h hends
    have hlt := Work.lt_nextDue hd
    omega

theorem workersEnds_of_results (now : Nat) : ∀ {workers : List (Worker α)}
    {results : List (Except String Unit)}, Worker.results workers = some results →
      Course.latest now (workersEnds g now workers) = some (now, results) := by
  intro workers
  induction workers with
  | nil =>
    intro results h
    cases h
    rfl
  | cons worker rest ih =>
    intro results h
    cases worker with
    | settled r =>
      obtain ⟨results', hrest, rfl⟩ := Option.map_eq_some_iff.mp h
      rw [workersEnds, Worker.ends, Course.latest, ih hrest]
      simp
    | _ => cases h

/-- A deployment ends when its last worker has settled, or at its deadline. -/
theorem Work.afterDeployment_ends {deadline : Duration} {due : Nat} {workers : List (Worker α)}
    {value : Value α} {rest : List (Action α)} {next : Stepped α}
    (hworkers : stepWorkers w workers = none)
    (h : Work.afterDeployment w deadline due workers rest = some (w', next)) :
    next.ends g w.now = (Work.mk (.deployment deadline due workers) value rest).ends g w.now := by
  rw [Work.ends, Pause.ends]
  unfold Work.afterDeployment at h
  split at h
  · case h_1 results hresults =>
    rw [workersEnds_of_results w.now hresults, Course.cutOff_now, deployed]
    cases hfailure : firstFailure results with
    | some e =>
      rw [hfailure] at h
      cases h
      rfl
    | none =>
      rw [hfailure] at h
      cases h
      rfl
  · case h_2 hresults =>
    split at h
    · case isTrue hdue =>
      cases h
      rw [Nat.max_eq_left hdue]
      rcases (Course.latest w.now (workersEnds g w.now workers)).cutOff_cases w.now with
        hcut | ⟨t, rs, hends, ht, -⟩
      · rw [hcut]
        rfl
      · obtain ⟨d, hd, hle⟩ := (stepWorkers_waits hworkers).due_le_latest hresults hends
        have hlt := lt_workersDue hd
        omega
    · cases h

theorem Worker.enroll_ends (hw : w.Under g) (number : Nat) (v : Value α)
    (r : Resource (Action α)) : (Worker.enroll w r).2.ends g w.now =
      Course.enroll g number r.name (resourceCourse g r).1 (some (w.now, .ok v)) := by
  unfold Worker.enroll
  rcases World.register_cases hw r with ⟨hacc, w', hr⟩ | ⟨hacc, w', c, hr, hname, hc⟩
  · simp only [hr, Course.enroll, hacc, if_true]
    rfl
  · simp only [hr, Course.enroll, hacc, Bool.false_eq_true, if_false]
    change some ((c.ends g w.now).1, Except.error (refusalMessage c.name)) = _
    rw [hc, hname]

mutual

theorem Work.Steps.ends_eq (hw : w.Under g) {w' : World α} {job : Work α} {next : Stepped α}
    (h : Work.Steps w job w' next) : next.ends g w.now = job.ends g w.now := by
  cases h with
  | finish value =>
    rw [Work.ends_none, actionsCourse]
    rfl
  | begin a value rest =>
    rw [Work.ends_none]
    exact a.begin_ends hw value rest
  | wake hdue value rest =>
    rw [Work.ends, Pause.ends, Nat.max_eq_left hdue]
    exact Work.ends_none g w.now value rest
  | told hr value rest =>
    rw [hw.report] at hr
    cases hr
  | @close w₁ job job' h tolerated ticket name stage due value rest =>
    have ih := Work.Steps.ends_eq hw h
    change job'.ends g w.now = _ at ih
    change Work.ends g w.now _ = _
    rw [Work.ends, Work.ends, Pause.ends, Pause.ends, ih]
  | @closed w₁ job result h tolerated ticket name stage due value rest =>
    have ih := Work.Steps.ends_eq hw h
    change some (w.now, result) = _ at ih
    have hafter := Work.afterRefusal_ends (g := g) w₁ w.now tolerated
      ⟨ticket, name, stage, due, job⟩ (some result) value rest
    rw [Work.ends, Pause.ends, ← ih, Course.cutOff_now]
    cases tolerated <;> exact hafter
  | @cutOff job due hjob hdue tolerated ticket name stage value rest =>
    have hafter := Work.afterRefusal_ends (g := g) w w.now tolerated
      ⟨ticket, name, stage, due, job⟩ none value rest
    rw [Work.ends, Pause.ends, Work.cutOff_of_due hjob hdue]
    cases tolerated <;> exact hafter
  | deploy h deadline due value rest =>
    obtain ⟨ih, hlength⟩ := WorkersSteps.ends_eq hw h
    change Work.ends g w.now _ = _
    rw [Work.ends, Work.ends, Pause.ends, Pause.ends, ih, hlength]
  | deployed hworkers h value => exact Work.afterDeployment_ends hworkers h

theorem Worker.Steps.ends_eq (hw : w.Under g) {w' : World α} {worker next : Worker α}
    (h : Worker.Steps w worker w' next) : next.ends g w.now = worker.ends g w.now := by
  cases h with
  | create number start r =>
    rw [Worker.ends, Worker.ends, Course.delay_enroll]
    exact congrArg _ (Work.ends_none g w.now .nothing start)
  | @start w₁ job job' h number r =>
    have ih := Work.Steps.ends_eq hw h
    change job'.ends g w.now = _ at ih
    rw [Worker.ends, Worker.ends, ih]
  | @up w₁ job value h number r =>
    have ih := Work.Steps.ends_eq hw h
    change some (w.now, Except.ok value) = _ at ih
    obtain ⟨-, rfl⟩ := h.eq_of_ok
    rw [Worker.ends.eq_2, ← ih]
    exact Worker.enroll_ends hw number value r
  | @fail w₁ job e h number r =>
    have ih := Work.Steps.ends_eq hw h
    change some (w.now, Except.error e) = _ at ih
    rw [Worker.ends.eq_2, ← ih]
    rfl
  | @close w₁ job job' h ticket name stage due =>
    have ih := Work.Steps.ends_eq hw h
    change job'.ends g w.now = _ at ih
    rw [Worker.ends, Worker.ends, ih]
  | @closed w₁ job result h ticket name stage due =>
    have ih := Work.Steps.ends_eq hw h
    change some (w.now, result) = _ at ih
    rw [Worker.ends.eq_3, ← ih, Course.cutOff_now]
    rfl
  | cutOff hjob hdue ticket name stage =>
    rw [Worker.ends.eq_3, Work.cutOff_of_due hjob hdue]
    rfl

theorem WorkersSteps.ends_eq (hw : w.Under g) {w' : World α} {workers next : List (Worker α)}
    (h : WorkersSteps w workers w' next) :
    workersEnds g w.now next = workersEnds g w.now workers ∧ next.length = workers.length := by
  cases h with
  | here h rest => exact ⟨by rw [workersEnds, workersEnds, Worker.Steps.ends_eq hw h], rfl⟩
  | there hworker h =>
    obtain ⟨ih, hlength⟩ := WorkersSteps.ends_eq hw h
    exact ⟨by rw [workersEnds, workersEnds, ih], congrArg (· + 1) hlength⟩

end

/-- **A step does not change when work ends.** -/
theorem Work.step_ends (hw : w.Under g) {job : Work α} {next : Stepped α}
    (h : job.step w = some (w', next)) : next.ends g w.now = job.ends g w.now :=
  (Work.step_steps h).ends_eq hw

end EventIntake.Lifecycle
