import EventIntake.Lifecycle.Session

/-!
# Steps of work

What one step of work can be, said once: `Work.Steps` has a rule for every way in which `Work.step`
comes to a step, with what it has found out on that way, and `Work.Waits` one for every way in which
it comes to none.  So what a step keeps, and what holds of work that waits, is shown by recursion on
the rules.  `Thread.Steps`, `Bootstrap.Steps` and `Waiting.Steps` say the same of what work is a
part of.
-/

namespace EventIntake.Lifecycle

variable {α : Type}

mutual

/-- What one step of work in the world `w` can be. -/
inductive Work.Steps (w : World α) : Work α → World α → Stepped α → Prop
  | finish (value : Value α) : Work.Steps w (.mk .none value []) w (.inr (.ok value))
  | begin (a : Action α) (value : Value α) (rest : List (Action α)) :
      Work.Steps w (.mk .none value (a :: rest)) (a.begin w value rest).1 (a.begin w value rest).2
  | wake {due : Nat} (h : due ≤ w.now) (value : Value α) (rest : List (Action α)) :
      Work.Steps w (.mk (.untilTime due) value rest) w (.inl (.mk .none value rest))
  | told {r : Report} (h : w.coordinator.report = some r) (value : Value α)
      (rest : List (Action α)) :
      Work.Steps w (.mk .report value rest)
        ((w.note (.returned r)).record (.reported r.attempted.length)) (.inl (.mk .none value rest))
  | close {w' : World α} {job job' : Work α} (h : Work.Steps w job w' (.inl job'))
      (tolerated : Bool) (ticket : Nat) (name : String) (stage : Stage) (due : Nat)
      (value : Value α) (rest : List (Action α)) :
      Work.Steps w (.mk (.refusal tolerated ⟨ticket, name, stage, due, job⟩) value rest) w'
        (.inl (.mk (.refusal tolerated ⟨ticket, name, stage, due, job'⟩) value rest))
  | closed {w' : World α} {job : Work α} {result : Except String (Value α)}
      (h : Work.Steps w job w' (.inr result)) (tolerated : Bool) (ticket : Nat) (name : String)
      (stage : Stage) (due : Nat) (value : Value α) (rest : List (Action α)) :
      Work.Steps w (.mk (.refusal tolerated ⟨ticket, name, stage, due, job⟩) value rest)
        (Work.afterRefusal w' tolerated ⟨ticket, name, stage, due, job⟩ (some result) value rest).1
        (Work.afterRefusal w' tolerated ⟨ticket, name, stage, due, job⟩ (some result) value rest).2
  | cutOff {job : Work α} {due : Nat} (h : job.step w = none) (hdue : due ≤ w.now)
      (tolerated : Bool) (ticket : Nat) (name : String) (stage : Stage) (value : Value α)
      (rest : List (Action α)) :
      Work.Steps w (.mk (.refusal tolerated ⟨ticket, name, stage, due, job⟩) value rest)
        (Work.afterRefusal w tolerated ⟨ticket, name, stage, due, job⟩ none value rest).1
        (Work.afterRefusal w tolerated ⟨ticket, name, stage, due, job⟩ none value rest).2
  | deploy {w' : World α} {workers workers' : List (Worker α)}
      (h : WorkersSteps w workers w' workers') (deadline : Duration) (due : Nat) (value : Value α)
      (rest : List (Action α)) :
      Work.Steps w (.mk (.deployment deadline due workers) value rest) w'
        (.inl (.mk (.deployment deadline due workers') value rest))
  | deployed {w' : World α} {workers : List (Worker α)} {deadline : Duration} {due : Nat}
      {rest : List (Action α)} {next : Stepped α} (hworkers : stepWorkers w workers = none)
      (h : Work.afterDeployment w deadline due workers rest = some (w', next)) (value : Value α) :
      Work.Steps w (.mk (.deployment deadline due workers) value rest) w' next

inductive Worker.Steps (w : World α) : Worker α → World α → Worker α → Prop
  | create (number : Nat) (start : List (Action α)) (r : Resource (Action α)) :
      Worker.Steps w (.waiting number start r) (w.record (.creating number))
        (.starting number (.ofActions start) r)
  | start {w' : World α} {job job' : Work α} (h : Work.Steps w job w' (.inl job')) (number : Nat)
      (r : Resource (Action α)) :
      Worker.Steps w (.starting number job r) w' (.starting number job' r)
  | up {w' : World α} {job : Work α} {value : Value α} (h : Work.Steps w job w' (.inr (.ok value)))
      (number : Nat) (r : Resource (Action α)) :
      Worker.Steps w (.starting number job r) (Worker.enroll w' r).1 (Worker.enroll w' r).2
  | fail {w' : World α} {job : Work α} {e : String} (h : Work.Steps w job w' (.inr (.error e)))
      (number : Nat) (r : Resource (Action α)) :
      Worker.Steps w (.starting number job r) w' (.settled (.error
        ("ingress worker " ++ toString number ++ " failed to start: " ++ e)))
  | close {w' : World α} {job job' : Work α} (h : Work.Steps w job w' (.inl job')) (ticket : Nat)
      (name : String) (stage : Stage) (due : Nat) :
      Worker.Steps w (.refused ⟨ticket, name, stage, due, job⟩) w'
        (.refused ⟨ticket, name, stage, due, job'⟩)
  | closed {w' : World α} {job : Work α} {result : Except String (Value α)}
      (h : Work.Steps w job w' (.inr result)) (ticket : Nat) (name : String) (stage : Stage)
      (due : Nat) :
      Worker.Steps w (.refused ⟨ticket, name, stage, due, job⟩)
        (w'.endRefusal ⟨ticket, name, stage, due, job⟩ (some result))
        (.settled (.error (refusalMessage name)))
  | cutOff {job : Work α} {due : Nat} (h : job.step w = none) (hdue : due ≤ w.now) (ticket : Nat)
      (name : String) (stage : Stage) :
      Worker.Steps w (.refused ⟨ticket, name, stage, due, job⟩)
        (w.endRefusal ⟨ticket, name, stage, due, job⟩ none)
        (.settled (.error (refusalMessage name)))

/-- One step of the first worker that can go on. -/
inductive WorkersSteps (w : World α) : List (Worker α) → World α → List (Worker α) → Prop
  | here {w' : World α} {worker worker' : Worker α} (h : Worker.Steps w worker w' worker')
      (rest : List (Worker α)) : WorkersSteps w (worker :: rest) w' (worker' :: rest)
  | there {w' : World α} {worker : Worker α} {rest rest' : List (Worker α)}
      (hworker : worker.step w = none) (h : WorkersSteps w rest w' rest') :
      WorkersSteps w (worker :: rest) w' (worker :: rest')

end

mutual

theorem Work.step_steps {w w' : World α} : ∀ {job : Work α} {next : Stepped α},
    job.step w = some (w', next) → Work.Steps w job w' next
  | .mk pause value rest, next, h => by
    match pause with
    | .none =>
      match rest with
      | [] =>
        cases h
        exact .finish value
      | a :: rest =>
        simp only [Work.step, Option.some.injEq] at h
        obtain ⟨rfl, rfl⟩ := Prod.ext_iff.mp h
        exact .begin a value rest
    | .untilTime due =>
      simp only [Work.step] at h
      split at h
      · case isTrue hdue =>
        cases h
        exact .wake hdue value rest
      · cases h
    | .forever => cases h
    | .report =>
      simp only [Work.step] at h
      split at h
      · case h_1 r hr =>
        cases h
        exact .told hr value rest
      · cases h
    | .refusal tolerated ⟨ticket, name, stage, due, job⟩ =>
      simp only [Work.step] at h
      split at h
      · case h_1 w₁ job' hjob =>
        cases h
        exact .close (Work.step_steps hjob) tolerated ticket name stage due value rest
      · case h_2 w₁ result hjob =>
        obtain ⟨rfl, rfl⟩ := Prod.ext_iff.mp (Option.some.inj h)
        exact .closed (Work.step_steps hjob) tolerated ticket name stage due value rest
      · case h_3 hjob =>
        split at h
        · case isTrue hdue =>
          obtain ⟨rfl, rfl⟩ := Prod.ext_iff.mp (Option.some.inj h)
          exact .cutOff hjob hdue tolerated ticket name stage value rest
        · cases h
    | .deployment deadline due workers =>
      simp only [Work.step] at h
      split at h
      · case h_1 w₁ workers' hworkers =>
        cases h
        exact .deploy (stepWorkers_steps hworkers) deadline due value rest
      · case h_2 hworkers => exact .deployed hworkers h value

theorem Worker.step_steps {w w' : World α} : ∀ {worker next : Worker α},
    worker.step w = some (w', next) → Worker.Steps w worker w' next
  | .waiting number start r, next, h => by
    cases h
    exact .create number start r
  | .starting number job r, next, h => by
    simp only [Worker.step] at h
    split at h
    · case h_1 w₁ job' hjob =>
      cases h
      exact .start (Work.step_steps hjob) number r
    · case h_2 w₁ value hjob =>
      obtain ⟨rfl, rfl⟩ := Prod.ext_iff.mp (Option.some.inj h)
      exact .up (Work.step_steps hjob) number r
    · case h_3 w₁ e hjob =>
      cases h
      exact .fail (Work.step_steps hjob) number r
    · cases h
  | .refused ⟨ticket, name, stage, due, job⟩, next, h => by
    simp only [Worker.step] at h
    split at h
    · case h_1 w₁ job' hjob =>
      cases h
      exact .close (Work.step_steps hjob) ticket name stage due
    · case h_2 w₁ result hjob =>
      cases h
      exact .closed (Work.step_steps hjob) ticket name stage due
    · case h_3 hjob =>
      split at h
      · case isTrue hdue =>
        cases h
        exact .cutOff hjob hdue ticket name stage
      · cases h
  | .settled r, next, h => by cases h

theorem stepWorkers_steps {w w' : World α} : ∀ {workers next : List (Worker α)},
    stepWorkers w workers = some (w', next) → WorkersSteps w workers w' next
  | [], next, h => by cases h
  | worker :: rest, next, h => by
    simp only [stepWorkers] at h
    split at h
    · case h_1 w₁ worker' hworker =>
      cases h
      exact .here (Worker.step_steps hworker) rest
    · case h_2 hworker =>
      split at h
      · case h_1 w₁ rest' hrest =>
        cases h
        exact .there hworker (stepWorkers_steps hrest)
      · cases h

end

/-! The rules leave nothing out: what they derive is the step that is taken. -/

mutual

theorem Work.Steps.step_eq {w w' : World α} {job : Work α} {next : Stepped α}
    (h : Work.Steps w job w' next) : job.step w = some (w', next) := by
  cases h with
  | finish value => rfl
  | begin a value rest => rfl
  | wake hdue value rest => exact if_pos hdue
  | told hr value rest => simp only [Work.step, hr]
  | close h tolerated ticket name stage due value rest =>
    simp only [Work.step, Work.Steps.step_eq h]
  | closed h tolerated ticket name stage due value rest =>
    simp only [Work.step, Work.Steps.step_eq h]
  | cutOff hjob hdue tolerated ticket name stage value rest =>
    simp only [Work.step, hjob, if_pos hdue]
  | deploy h deadline due value rest => simp only [Work.step, WorkersSteps.step_eq h]
  | deployed hworkers h value => simp only [Work.step, hworkers, h]

theorem Worker.Steps.step_eq {w w' : World α} {worker next : Worker α}
    (h : Worker.Steps w worker w' next) : worker.step w = some (w', next) := by
  cases h with
  | create number start r => rfl
  | start h number r => simp only [Worker.step, Work.Steps.step_eq h]
  | up h number r => simp only [Worker.step, Work.Steps.step_eq h]
  | fail h number r => simp only [Worker.step, Work.Steps.step_eq h]
  | close h ticket name stage due => simp only [Worker.step, Work.Steps.step_eq h]
  | closed h ticket name stage due => simp only [Worker.step, Work.Steps.step_eq h]
  | cutOff hjob hdue ticket name stage => simp only [Worker.step, hjob, if_pos hdue]

theorem WorkersSteps.step_eq {w w' : World α} {workers next : List (Worker α)}
    (h : WorkersSteps w workers w' next) : stepWorkers w workers = some (w', next) := by
  cases h with
  | here h rest => simp only [stepWorkers, Worker.Steps.step_eq h]
  | there hworker h => simp only [stepWorkers, hworker, WorkersSteps.step_eq h]

end

/-- Only the end of the last action comes to a value, and it changes nothing. -/
theorem Work.Steps.eq_of_ok {w w' : World α} {job : Work α} {value : Value α}
    (h : Work.Steps w job w' (.inr (.ok value))) : job = .mk .none value [] ∧ w' = w := by
  generalize hnext : (.inr (.ok value) : Stepped α) = next at h
  cases h with
  | finish v =>
    cases hnext
    exact ⟨rfl, rfl⟩
  | begin a v rest =>
    cases a with
    | register r =>
      simp only [Action.begin] at hnext
      split at hnext <;> cases hnext
    | tryRegister r =>
      simp only [Action.begin] at hnext
      split at hnext <;> cases hnext
    | _ => cases hnext
  | wake h v rest => cases hnext
  | told hr v rest => cases hnext
  | close h tolerated ticket name stage due v rest => cases hnext
  | closed h tolerated ticket name stage due v rest => cases tolerated <;> cases hnext
  | cutOff h hdue tolerated ticket name stage v rest => cases tolerated <;> cases hnext
  | deploy h deadline due v rest => cases hnext
  | deployed hworkers h v =>
    subst hnext
    unfold Work.afterDeployment at h
    split at h
    · split at h <;> cases h
    · split at h <;> cases h

/-! ## What work is a part of -/

inductive Pass.Steps (w : World α) (p : Pass α) : World α → Thread α → Prop
  | work {w' : World α} {c : Closing (Work α)} {job : Work α} (hcurrent : p.current = some c)
      (h : c.work.step w = some (w', .inl job)) :
      Pass.Steps w p w' (.pass { p with current := some { c with work := job } })
  | closed {w' : World α} {c : Closing (Work α)} {result : Except String (Value α)}
      (hcurrent : p.current = some c) (h : c.work.step w = some (w', .inr result)) :
      Pass.Steps w p (p.afterClose w' c (some result)).1 (p.afterClose w' c (some result)).2
  | cutOff {c : Closing (Work α)} (hcurrent : p.current = some c) (h : c.work.step w = none)
      (hdue : c.due ≤ w.now) : Pass.Steps w p (p.afterClose w c none).1 (p.afterClose w c none).2
  | take {e : Entry α} {rest : List (Entry α)} (hcurrent : p.current = none)
      (hwaiting : p.waiting = e :: rest) :
      Pass.Steps w p (w.record (.closing e.ticket e.resource.name)) (.pass { p with
        current := some (w.beginClose e.ticket e.resource).2
        waiting := rest
        attempted := p.attempted ++ [e.resource.name] })
  | stop (hcurrent : p.current = none) (hwaiting : p.waiting = []) :
      Pass.Steps w p (w.stop p.report) .finished

inductive Thread.Steps (w : World α) : Thread α → World α → Thread α → Prop
  | ask (cause : Cause) :
      Thread.Steps w (.trigger cause false) (w.trigger cause) (.trigger cause true)
  | told {r : Report} (h : w.coordinator.report = some r) (cause : Cause) :
      Thread.Steps w (.trigger cause true) (w.note (.returned r)) .finished
  | pass {p : Pass α} {w' : World α} {t : Thread α} (h : Pass.Steps w p w' t) :
      Thread.Steps w (.pass p) w' t

inductive Bootstrap.Steps (w : World α) (b : Bootstrap α) :
    World α → Bootstrap α ⊕ Bootstrap.Result α → Prop
  | finish (hstand : b.stand = .between) (hwaiting : b.waiting = []) :
      Bootstrap.Steps w b w (.inr ⟨b.aborted, .ok (b.completed, b.value)⟩)
  | refuse {p : Phase α} {rest : List (Phase α)} (hstand : b.stand = .between)
      (hwaiting : b.waiting = p :: rest) (haborted : b.aborted = true) :
      Bootstrap.Steps w b w (.inr ⟨true, .error (.aborted p.name)⟩)
  | begin {p : Phase α} {rest : List (Phase α)} (hstand : b.stand = .between)
      (hwaiting : b.waiting = p :: rest) (haborted : b.aborted = false) :
      Bootstrap.Steps w b (w.note (.phaseBegun p.name)) (.inl { b with
        waiting := rest
        stand := .body p.name p.limit (w.dueIn p.limit) (.ofActions p.body) })
  | work {name : String} {limit : Duration} {due : Nat} {job job' : Work α} {w' : World α}
      (hstand : b.stand = .body name limit due job) (h : job.step w = some (w', .inl job')) :
      Bootstrap.Steps w b w' (.inl { b with stand := .body name limit due job' })
  | done {name : String} {limit : Duration} {due : Nat} {job : Work α} {w' : World α}
      {value : Value α} (hstand : b.stand = .body name limit due job)
      (h : job.step w = some (w', .inr (.ok value))) :
      Bootstrap.Steps w b (w'.note (.phaseDone name)) (.inl { b with
        stand := .between
        completed := b.completed ++ [name]
        value })
  | fail {name reason : String} {limit : Duration} {due : Nat} {job : Work α} {w' : World α}
      (hstand : b.stand = .body name limit due job)
      (h : job.step w = some (w', .inr (.error reason))) :
      Bootstrap.Steps w b (b.abort w' (.phaseFailed name reason)).1
        (.inl (b.abort w' (.phaseFailed name reason)).2)
  | timeOut {name : String} {limit : Duration} {due : Nat} {job : Work α}
      (hstand : b.stand = .body name limit due job) (h : job.step w = none) (hdue : due ≤ w.now) :
      Bootstrap.Steps w b (b.abort (w.giveUp job.refusals) (.phaseTimedOut name limit)).1
        (.inl (b.abort (w.giveUp job.refusals) (.phaseTimedOut name limit)).2)
  | tornDown {e : BootFailure} {r : Report} (hstand : b.stand = .tearingDown e)
      (hr : w.coordinator.report = some r) :
      Bootstrap.Steps w b
        (r.errors.foldl (fun w failure => w.error "Teardown failure after aborted startup"
          [("resource", failure.resource), ("reason", failure.reason)]) (w.note (.returned r)))
        (.inr ⟨true, .error e⟩)

inductive Waiting.Steps (s : Session α) : Waiting α → Session α → Waiting α → Prop
  | work {job job' : Work α} {world : World α} (h : job.step s.world = some (world, .inl job')) :
      Waiting.Steps s (.work job) { s with world } (.work job')
  | done {job : Work α} {world : World α} {value : Value α}
      (h : job.step s.world = some (world, .inr (.ok value))) :
      Waiting.Steps s (.work job) { s with world } (.answered .done)
  | refused {job : Work α} {world : World α} {e : String}
      (h : job.step s.world = some (world, .inr (.error e))) :
      Waiting.Steps s (.work job) { s with world } (.answered (.refused e))
  | told {r : Report} (h : s.world.coordinator.report = some r) (due : Nat) (late : Reply α) :
      Waiting.Steps s (.report due late) { s with world := s.world.note (.returned r) }
        (.answered (.report r))
  | late {due : Nat} (h : s.world.coordinator.report = none) (hdue : due ≤ s.world.now)
      (late : Reply α) : Waiting.Steps s (.report due late) s (.answered late)
  | joined {i : Nat} {r : Report} (ht : s.world.threads[i]? = some .finished)
      (h : s.world.coordinator.report = some r) :
      Waiting.Steps s (.thread i) s (.answered (.report r))
  | woken {due : Nat} (hdue : due ≤ s.world.now) :
      Waiting.Steps s (.untilTime due) s (.answered .done)
  | boot {b b' : Bootstrap α} {world : World α} (h : b.step s.world = some (world, .inl b'))
      (single : Bool) :
      Waiting.Steps s (.bootstrap single b) { s with world } (.bootstrap single b')
  | booted {b : Bootstrap α} {world : World α} {result : Bootstrap.Result α}
      (h : b.step s.world = some (world, .inr result)) (single : Bool) :
      Waiting.Steps s (.bootstrap single b) { s with world, aborted := result.aborted }
        (.answered (.ofBootstrap single result.outcome))

theorem Pass.step_steps {w w' : World α} {p : Pass α} {t : Thread α}
    (h : p.step w = some (w', t)) : Pass.Steps w p w' t := by
  unfold Pass.step at h
  split at h
  · case h_1 c hcurrent =>
    split at h
    · case h_1 w₁ job hjob =>
      cases h
      exact .work hcurrent hjob
    · case h_2 w₁ result hjob =>
      obtain ⟨rfl, rfl⟩ := Prod.ext_iff.mp (Option.some.inj h)
      exact .closed hcurrent hjob
    · case h_3 hjob =>
      split at h
      · case isTrue hdue =>
        obtain ⟨rfl, rfl⟩ := Prod.ext_iff.mp (Option.some.inj h)
        exact .cutOff hcurrent hjob hdue
      · cases h
  · case h_2 hcurrent =>
    split at h
    · case h_1 hwaiting =>
      cases h
      exact .stop hcurrent hwaiting
    · case h_2 e rest hwaiting =>
      cases h
      exact .take hcurrent hwaiting

theorem Thread.step_steps {w w' : World α} {t t' : Thread α} (h : t.step w = some (w', t')) :
    Thread.Steps w t w' t' := by
  match t with
  | .trigger cause false =>
    cases h
    exact .ask cause
  | .trigger cause true =>
    simp only [Thread.step] at h
    split at h
    · case h_1 r hr =>
      cases h
      exact .told hr cause
    · cases h
  | .pass p => exact .pass (Pass.step_steps h)
  | .finished => cases h

/-- A step of thread `i` is one of what it is, which is then put in its place. -/
theorem World.stepThread_steps {w w' : World α} {i : Nat} (h : w.stepThread i = some w') :
    ∃ t w₁ t', w.threads[i]? = some t ∧ t.step w = some (w₁, t') ∧
      w' = { w₁ with threads := w₁.threads.set i t' } := by
  unfold stepThread at h
  split at h
  · case h_1 t ht =>
    split at h
    · case h_1 w₁ t' hstep =>
      cases h
      exact ⟨t, w₁, t', ht, hstep, rfl⟩
    · cases h
  · cases h

theorem World.stepThread_isSome {w : World α} {i : Nat} {t : Thread α}
    (ht : w.threads[i]? = some t) (h : (t.step w).isSome) : (w.stepThread i).isSome := by
  obtain ⟨⟨w', t'⟩, hstep⟩ := Option.isSome_iff_exists.mp h
  simp [World.stepThread, ht, hstep]

theorem World.step_of_stepThread_none {w : World α} {i : Nat} {t : Thread α}
    (h : w.stepThread i = none) (ht : w.threads[i]? = some t) : t.step w = none := by
  cases hstep : t.step w with
  | none => rfl
  | some next =>
    have hsome := stepThread_isSome ht (by rw [hstep]; rfl)
    rw [h] at hsome
    cases hsome

theorem Bootstrap.step_steps {w w' : World α} {b : Bootstrap α}
    {next : Bootstrap α ⊕ Bootstrap.Result α} (h : b.step w = some (w', next)) :
    Bootstrap.Steps w b w' next := by
  unfold Bootstrap.step at h
  split at h
  · case h_1 hstand =>
    split at h
    · case h_1 hwaiting =>
      cases h
      exact .finish hstand hwaiting
    · case h_2 p rest hwaiting =>
      split at h
      · case isTrue haborted =>
        cases h
        exact .refuse hstand hwaiting haborted
      · case isFalse haborted =>
        cases h
        exact .begin hstand hwaiting (by simpa using haborted)
  · case h_2 name limit due job hstand =>
    split at h
    · case h_1 w₁ job' hjob =>
      cases h
      exact .work hstand hjob
    · case h_2 w₁ value hjob =>
      cases h
      exact .done hstand hjob
    · case h_3 w₁ reason hjob =>
      cases h
      exact .fail hstand hjob
    · case h_4 hjob =>
      split at h
      · case isTrue hdue =>
        cases h
        exact .timeOut hstand hjob hdue
      · cases h
  · case h_3 e hstand =>
    split at h
    · case h_1 r hr =>
      cases h
      exact .tornDown hstand hr
    · cases h

theorem Waiting.step_steps {s s' : Session α} {r r' : Waiting α} (h : r.step s = some (s', r')) :
    Waiting.Steps s r s' r' := by
  cases r with
  | work job =>
    simp only [Waiting.step] at h
    split at h
    · case h_1 w job' hjob =>
      cases h
      exact .work hjob
    · case h_2 w v hjob =>
      cases h
      exact .done hjob
    · case h_3 w e hjob =>
      cases h
      exact .refused hjob
    · cases h
  | report due late =>
    simp only [Waiting.step] at h
    split at h
    · case h_1 r hr =>
      cases h
      exact .told hr due late
    · case h_2 hr =>
      split at h
      · case isTrue hdue =>
        cases h
        exact .late hr hdue late
      · cases h
  | thread i =>
    simp only [Waiting.step] at h
    split at h
    · case h_1 r ht hr =>
      cases h
      exact .joined ht hr
    · cases h
  | untilTime due =>
    simp only [Waiting.step] at h
    split at h
    · case isTrue hdue =>
      cases h
      exact .woken hdue
    · cases h
  | bootstrap single b =>
    simp only [Waiting.step] at h
    split at h
    · case h_1 w b' hb =>
      cases h
      exact .boot hb single
    · case h_2 w result hb =>
      cases h
      exact .booted hb single
    · cases h
  | answered reply => cases h

/-! ## Work that waits -/

mutual

/-- Work that cannot go on in the world `w`. -/
inductive Work.Waits (w : World α) : Work α → Prop
  | asleep {due : Nat} (h : w.now < due) (value : Value α) (rest : List (Action α)) :
      Work.Waits w (.mk (.untilTime due) value rest)
  | hanging (value : Value α) (rest : List (Action α)) : Work.Waits w (.mk .forever value rest)
  | untold (h : w.coordinator.report = none) (value : Value α) (rest : List (Action α)) :
      Work.Waits w (.mk .report value rest)
  | closing {job : Work α} {due : Nat} (h : Work.Waits w job) (hdue : w.now < due)
      (tolerated : Bool) (ticket : Nat) (name : String) (stage : Stage) (value : Value α)
      (rest : List (Action α)) :
      Work.Waits w (.mk (.refusal tolerated ⟨ticket, name, stage, due, job⟩) value rest)
  | deploying {workers : List (Worker α)} {due : Nat} (h : WorkersWait w workers)
      (hresults : Worker.results workers = none) (hdue : w.now < due) (deadline : Duration)
      (value : Value α) (rest : List (Action α)) :
      Work.Waits w (.mk (.deployment deadline due workers) value rest)

inductive Worker.Waits (w : World α) : Worker α → Prop
  | starting {job : Work α} (h : Work.Waits w job) (number : Nat) (r : Resource (Action α)) :
      Worker.Waits w (.starting number job r)
  | closing {job : Work α} {due : Nat} (h : Work.Waits w job) (hdue : w.now < due) (ticket : Nat)
      (name : String) (stage : Stage) : Worker.Waits w (.refused ⟨ticket, name, stage, due, job⟩)
  | settled (result : Except String Unit) : Worker.Waits w (.settled result)

inductive WorkersWait (w : World α) : List (Worker α) → Prop
  | nil : WorkersWait w []
  | cons {worker : Worker α} {rest : List (Worker α)} (h : Worker.Waits w worker)
      (hrest : WorkersWait w rest) : WorkersWait w (worker :: rest)

end

mutual

theorem Work.step_waits {w : World α} : ∀ {job : Work α}, job.step w = none → Work.Waits w job
  | .mk pause value rest, h => by
    match pause with
    | .none => cases rest <;> cases h
    | .untilTime due =>
      simp only [Work.step] at h
      split at h
      · cases h
      · case isFalse hnot => exact .asleep (Nat.lt_of_not_le hnot) value rest
    | .forever => exact .hanging value rest
    | .report =>
      simp only [Work.step] at h
      split at h
      · cases h
      · case h_2 hnone => exact .untold hnone value rest
    | .refusal tolerated ⟨ticket, name, stage, due, job⟩ =>
      simp only [Work.step] at h
      split at h
      · cases h
      · cases h
      · case h_3 hjob =>
        split at h
        · cases h
        · case isFalse hnot =>
          exact .closing (Work.step_waits hjob) (Nat.lt_of_not_le hnot) tolerated ticket name stage
            value rest
    | .deployment deadline due workers =>
      simp only [Work.step] at h
      split at h
      · cases h
      · case h_2 hworkers =>
        unfold Work.afterDeployment at h
        split at h
        · split at h <;> cases h
        · case h_2 hresults =>
          split at h
          · cases h
          · case isFalse hnot =>
            exact .deploying (stepWorkers_waits hworkers) hresults (Nat.lt_of_not_le hnot) deadline
              value rest

theorem Worker.step_waits {w : World α} : ∀ {worker : Worker α},
    worker.step w = none → Worker.Waits w worker
  | .waiting number start r, h => by cases h
  | .starting number job r, h => by
    simp only [Worker.step] at h
    split at h
    · cases h
    · cases h
    · cases h
    · case h_4 hjob => exact .starting (Work.step_waits hjob) number r
  | .refused ⟨ticket, name, stage, due, job⟩, h => by
    simp only [Worker.step] at h
    split at h
    · cases h
    · cases h
    · case h_3 hjob =>
      split at h
      · cases h
      · case isFalse hnot =>
        exact .closing (Work.step_waits hjob) (Nat.lt_of_not_le hnot) ticket name stage
  | .settled result, h => .settled result

theorem stepWorkers_waits {w : World α} : ∀ {workers : List (Worker α)},
    stepWorkers w workers = none → WorkersWait w workers
  | [], h => .nil
  | worker :: rest, h => by
    simp only [stepWorkers] at h
    split at h
    · cases h
    · case h_2 hworker =>
      split at h
      · cases h
      · case h_2 hrest => exact .cons (Worker.step_waits hworker) (stepWorkers_waits hrest)

end

end EventIntake.Lifecycle
