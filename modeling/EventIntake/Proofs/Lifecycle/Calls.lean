import EventIntake.Proofs.Lifecycle.Ledger
import EventIntake.Proofs.Lifecycle.Process

/-!
# Calls

A hand-over and a request for the shutdown are calls that somebody makes.  Which call a step makes
is told by the task or the thread that is about to take it (`Process.call?`), and not by what the
coordinator has noted; `Process.run_calls` says that just these calls are noted, one by one and each
at its instant.  `World.Answers` is the other end of a hand-over: what whoever made it gets.
-/

namespace EventIntake.Lifecycle

variable {α : Type} {w : World α}

inductive Call where
  | register (name : String)
  | trigger (cause : Cause)
  deriving DecidableEq

def Call.noted (now : Nat) : Option Call → List (Nat × Call)
  | some c => [(now, c)]
  | none => []

def Note.call? : Note → Option Call
  | .register _ name => some (.register name)
  | .trigger cause => some (.trigger cause)
  | _ => none

def Action.call? : Action α → Option Call
  | .register r | .tryRegister r => some (.register r.name)
  | .trigger cause => some (.trigger cause)
  | _ => none

mutual

/-- The call that the next step of some work makes. -/
def Work.call? (w : World α) : Work α → Option Call
  | .mk pause _ rest =>
    match pause with
    | .none => rest.head?.bind Action.call?
    | .refusal _ ⟨_, _, _, _, close⟩ => close.call? w
    | .deployment _ _ workers => workersCall? w workers
    | .untilTime _ | .forever | .report => none

def Worker.call? (w : World α) : Worker α → Option Call
  | .waiting _ _ _ | .settled _ => none
  | .starting _ start r =>
    match start with
    | .mk .none _ [] => some (.register r.name)
    | start => start.call? w
  | .refused ⟨_, _, _, _, close⟩ => close.call? w

def workersCall? (w : World α) : List (Worker α) → Option Call
  | [] => none
  | worker :: rest => if (worker.step w).isSome then worker.call? w else workersCall? w rest

end

/-- A phase that fails, or whose limit has passed, begins the shutdown. -/
def Bootstrap.call? (w : World α) (b : Bootstrap α) : Option Call :=
  match b.stand with
  | .between | .tearingDown _ => none
  | .body _ _ due job =>
    match job.step w with
    | some (_, .inr (.error _)) => some (.trigger .fatalBootstrap)
    | some _ => job.call? w
    | none => if due ≤ w.now then some (.trigger .fatalBootstrap) else none

def Thread.call? (w : World α) : Thread α → Option Call
  | .trigger cause false => some (.trigger cause)
  | .pass p => p.current.bind (·.work.call? w)
  | .trigger _ true | .finished => none

def Task.call? (w : World α) : Task α → Option Call
  | .work job => job.call? w
  | .bootstrap b => b.call? w
  | .ended => none

namespace Process

/-- The call that is made when a process takes a choice. -/
def call? (p : Process α) : Choice α → Option Call
  | .task i => p.tasks[i]?.bind (·.call? p.world)
  | .thread i => p.world.threads[i]?.bind (·.call? p.world)
  | _ => none

/-- The calls that are made when a process takes choices, one after the other. -/
def made (p : Process α) : List (Choice α) → List (Nat × Call)
  | [] => []
  | c :: rest => Call.noted p.world.now (p.call? c) ++ (p.take c).made rest

end Process

/-! ## What is noted of calls -/

namespace World

def calls (w : World α) : List (Nat × Call) :=
  w.notes.flatMap fun n => Call.noted n.1 n.2.call?

theorem calls_of_notes {w' : World α} {l : List (Nat × Note)} (h : w'.notes = w.notes ++ l) :
    w'.calls = w.calls ++ l.flatMap fun n => Call.noted n.1 n.2.call? := by
  rw [calls, h, List.flatMap_append, calls]

theorem calls_note (n : Note) : (w.note n).calls = w.calls ++ Call.noted w.now n.call? := by
  rw [calls_of_notes rfl, List.flatMap_singleton]

theorem calls_note_eq {n : Note} (hn : n.call? = none) : (w.note n).calls = w.calls := by
  rw [calls_note, hn, Call.noted, List.append_nil]

theorem calls_giveUp (l : List (Closing Unit)) : (w.giveUp l).calls = w.calls := by
  rw [calls_of_notes rfl, List.flatMap_map]
  simp [Note.call?, Call.noted]

theorem calls_register (w : World α) (r : Resource (Action α)) :
    (w.register r).1.calls = w.calls ++ [(w.now, .register r.name)] := by
  cases hacc : w.coordinator.accepting with
  | true =>
    rw [register_of_accepting hacc, calls_of_notes (List.append_assoc ..)]
    rfl
  | false =>
    rw [register_of_refusing hacc, calls_of_notes rfl]
    rfl

theorem calls_trigger (w : World α) (cause : Cause) :
    (w.trigger cause).calls = w.calls ++ [(w.now, .trigger cause)] := by
  rw [trigger]
  split
  · exact (calls_note_eq rfl).trans (calls_note _)
  · exact calls_note _

theorem calls_leaveBootstrap (s : State) : (w.leaveBootstrap s).1.calls = w.calls := by
  unfold leaveBootstrap
  split
  · exact calls_note_eq rfl
  · rfl

theorem calls_endClose (c : Closing (Work α)) (result : Option (Except String (Value α))) :
    (w.endClose c result).1.calls = w.calls := by
  match result with
  | some (.ok v) => rfl
  | some (.error e) => rfl
  | none => exact calls_giveUp _

theorem calls_endRefusal (c : Closing (Work α)) (result : Option (Except String (Value α))) :
    (w.endRefusal c result).calls = w.calls := by
  have hend := w.calls_endClose c result
  unfold endRefusal
  split
  · case h_1 w₁ u h =>
    rw [h] at hend
    exact (calls_note_eq rfl).trans hend
  · case h_2 w₁ e h =>
    rw [h] at hend
    exact (calls_note_eq rfl).trans hend

end World

/-! ## Steps -/

/-- What takes a step to `w'` has made just this call. -/
def World.Makes (w : World α) (call : Option Call) (w' : World α) : Prop :=
  w'.calls = w.calls ++ Call.noted w.now call

theorem World.Makes.none {w' : World α} (h : w'.calls = w.calls) : w.Makes none w' := by
  rw [Makes, h, Call.noted, List.append_nil]

theorem World.Makes.eq {w' : World α} (h : w.Makes Option.none w') : w'.calls = w.calls := by
  rw [h, Call.noted, List.append_nil]

theorem Action.begin_makes (w : World α) (value : Value α) (rest : List (Action α))
    (a : Action α) : w.Makes a.call? (a.begin w value rest).1 := by
  cases a with
  | register r =>
    have hregister := w.calls_register r
    simp only [Action.begin]
    split
    · case h_1 w₁ hr => rwa [hr] at hregister
    · case h_2 w₁ c hr => rwa [hr] at hregister
  | tryRegister r =>
    have hregister := w.calls_register r
    simp only [Action.begin]
    split
    · case h_1 w₁ hr => rwa [hr] at hregister
    · case h_2 w₁ c hr => rwa [hr] at hregister
  | trigger cause => exact w.calls_trigger cause
  | _ => exact .none rfl

theorem Worker.enroll_makes (w : World α) (r : Resource (Action α)) :
    w.Makes (some (.register r.name)) (Worker.enroll w r).1 := by
  have hregister := w.calls_register r
  unfold Worker.enroll
  split
  · case h_1 w₁ hr => rwa [hr] at hregister
  · case h_2 w₁ c hr => rwa [hr] at hregister

theorem Work.afterRefusal_calls (w : World α) (tolerated : Bool) (c : Closing (Work α))
    (result : Option (Except String (Value α))) (value : Value α) (rest : List (Action α)) :
    (Work.afterRefusal w tolerated c result value rest).1.calls = w.calls := by
  cases tolerated <;> exact World.calls_endRefusal c result

theorem Work.afterDeployment_calls {w' : World α} {deadline : Duration} {due : Nat}
    {workers : List (Worker α)} {rest : List (Action α)} {next : Stepped α}
    (h : Work.afterDeployment w deadline due workers rest = some (w', next)) :
    w'.calls = w.calls := by
  unfold Work.afterDeployment at h
  split at h
  · split at h <;>
    · cases h
      rfl
  · split at h
    · cases h
      exact World.calls_giveUp _
    · cases h

mutual

theorem Work.Waits.call?_eq_none {job : Work α} (h : Work.Waits w job) : job.call? w = none := by
  cases h with
  | asleep h value rest => rfl
  | hanging value rest => rfl
  | untold h value rest => rfl
  | closing h hdue tolerated ticket name stage value rest =>
    rw [Work.call?]
    exact Work.Waits.call?_eq_none h
  | deploying h hresults hdue deadline value rest =>
    rw [Work.call?]
    exact WorkersWait.call?_eq_none h

theorem Worker.Waits.call?_eq_none {worker : Worker α} (h : Worker.Waits w worker) :
    worker.call? w = none := by
  cases h with
  | starting h number r =>
    rw [Worker.call?]
    · exact Work.Waits.call?_eq_none h
    · rintro value rfl
      cases h
  | closing h hdue ticket name stage =>
    rw [Worker.call?]
    exact Work.Waits.call?_eq_none h
  | settled result => rfl

theorem WorkersWait.call?_eq_none {workers : List (Worker α)} (h : WorkersWait w workers) :
    workersCall? w workers = none := by
  cases h with
  | nil => rfl
  | cons h hrest =>
    rw [workersCall?, Worker.Waits.call?_eq_none h, WorkersWait.call?_eq_none hrest, ite_self]

end

mutual

/-- A step makes the call that can be told beforehand, and the last step of work makes none. -/
theorem Work.Steps.makes {w' : World α} {job : Work α} {next : Stepped α}
    (h : Work.Steps w job w' next) : w.Makes (job.call? w) w' ∧
      ∀ result, next = .inr result → job.call? w = none := by
  cases h with
  | finish value => exact ⟨.none rfl, fun _ _ => rfl⟩
  | begin a value rest =>
    refine ⟨a.begin_makes w value rest, fun result hresult => ?_⟩
    cases a with
    | register r =>
      simp only [Action.begin] at hresult
      split at hresult <;> cases hresult
    | tryRegister r =>
      simp only [Action.begin] at hresult
      split at hresult <;> cases hresult
    | trigger cause => cases hresult
    | _ => rfl
  | wake hdue value rest => exact ⟨.none rfl, fun _ _ => rfl⟩
  | told hr value rest => exact ⟨.none (World.calls_note_eq rfl), fun _ _ => rfl⟩
  | close h tolerated ticket name stage due value rest =>
    exact ⟨(Work.Steps.makes h).1, fun _ hresult => by (cases hresult)⟩
  | @closed w₁ job result h tolerated ticket name stage due value rest =>
    obtain ⟨hmakes, hlast⟩ := Work.Steps.makes h
    have hnone : job.call? w = none := hlast result rfl
    refine ⟨?_, fun _ _ => hnone⟩
    rw [hnone] at hmakes
    rw [Work.call?, hnone]
    exact .none ((Work.afterRefusal_calls ..).trans hmakes.eq)
  | cutOff hjob hdue tolerated ticket name stage value rest =>
    have hnone := (Work.step_waits hjob).call?_eq_none
    rw [Work.call?, hnone]
    exact ⟨.none (Work.afterRefusal_calls ..), fun _ _ => rfl⟩
  | deploy h deadline due value rest =>
    exact ⟨WorkersSteps.makes h, fun _ hresult => by (cases hresult)⟩
  | deployed hworkers h value =>
    have hnone := (stepWorkers_waits hworkers).call?_eq_none
    rw [Work.call?, hnone]
    exact ⟨.none (Work.afterDeployment_calls h), fun _ _ => rfl⟩

theorem Worker.Steps.makes {w' : World α} {worker next : Worker α}
    (h : Worker.Steps w worker w' next) : w.Makes (worker.call? w) w' := by
  cases h with
  | create number start r => exact .none rfl
  | @start w₁ job job' h number r =>
    have hmakes := (Work.Steps.makes h).1
    rw [Worker.call?]
    · exact hmakes
    · rintro value rfl
      cases h
  | up h number r =>
    obtain ⟨rfl, rfl⟩ := h.eq_of_ok
    exact Worker.enroll_makes _ r
  | @fail w₁ job e h number r =>
    have hmakes := (Work.Steps.makes h).1
    rw [Worker.call?]
    · exact hmakes
    · rintro value rfl
      cases h
  | close h ticket name stage due => exact (Work.Steps.makes h).1
  | @closed w₁ job result h ticket name stage due =>
    obtain ⟨hmakes, hlast⟩ := Work.Steps.makes h
    rw [hlast result rfl] at hmakes
    rw [Worker.call?, hlast result rfl]
    exact .none ((World.calls_endRefusal ..).trans hmakes.eq)
  | cutOff hjob hdue ticket name stage =>
    rw [Worker.call?, (Work.step_waits hjob).call?_eq_none]
    exact .none (World.calls_endRefusal ..)

theorem WorkersSteps.makes {w' : World α} {workers next : List (Worker α)}
    (h : WorkersSteps w workers w' next) : w.Makes (workersCall? w workers) w' := by
  cases h with
  | here h rest =>
    rw [workersCall?, Worker.Steps.step_eq h, Option.isSome_some, if_pos rfl]
    exact Worker.Steps.makes h
  | there hworker h =>
    rw [workersCall?, hworker, Option.isSome_none, if_neg Bool.false_ne_true]
    exact WorkersSteps.makes h

end

theorem Work.step_makes {w' : World α} {job : Work α} {next : Stepped α}
    (h : job.step w = some (w', next)) : w.Makes (job.call? w) w' :=
  (Work.step_steps h).makes.1

theorem Work.call?_of_result {w' : World α} {job : Work α} {result : Except String (Value α)}
    (h : job.step w = some (w', .inr result)) : job.call? w = none :=
  (Work.step_steps h).makes.2 result rfl

theorem Work.call?_of_waiting {job : Work α} (h : job.step w = none) : job.call? w = none :=
  (Work.step_waits h).call?_eq_none

theorem Pass.afterClose_calls (p : Pass α) (c : Closing (Work α))
    (result : Option (Except String (Value α))) : (p.afterClose w c result).1.calls = w.calls := by
  have hend := World.calls_endClose (w := w) c result
  unfold Pass.afterClose
  split
  · case h_1 w₁ u h => rwa [h] at hend
  · case h_2 w₁ e h => rwa [h] at hend

theorem Pass.Steps.makes {w' : World α} {p : Pass α} {t : Thread α} (h : Pass.Steps w p w' t) :
    w.Makes (p.current.bind (·.work.call? w)) w' := by
  cases h with
  | work hcurrent hjob =>
    rw [hcurrent]
    exact Work.step_makes hjob
  | closed hcurrent hjob =>
    have hmakes := Work.step_makes hjob
    rw [Work.call?_of_result hjob] at hmakes
    rw [hcurrent, Option.bind_some, Work.call?_of_result hjob]
    exact .none ((p.afterClose_calls ..).trans hmakes.eq)
  | cutOff hcurrent hjob hdue =>
    rw [hcurrent, Option.bind_some, Work.call?_of_waiting hjob]
    exact .none (p.afterClose_calls ..)
  | take hcurrent hwaiting =>
    rw [hcurrent]
    exact .none rfl
  | stop hcurrent hwaiting =>
    rw [hcurrent]
    exact .none (World.calls_note_eq rfl)

theorem Thread.step_makes {w' : World α} {t t' : Thread α} (h : t.step w = some (w', t')) :
    w.Makes (t.call? w) w' := by
  cases Thread.step_steps h with
  | ask cause => exact w.calls_trigger cause
  | told hr cause => exact .none (World.calls_note_eq rfl)
  | pass hpass => exact hpass.makes

theorem Thread.call?_of_waiting {t : Thread α} (h : t.step w = none) : t.call? w = none := by
  match t with
  | .trigger cause false => cases h
  | .trigger cause true => rfl
  | .finished => rfl
  | .pass p =>
    simp only [Thread.step, Pass.step] at h
    split at h
    · case h_1 c hcurrent =>
      split at h
      · cases h
      · cases h
      · case h_3 hjob =>
        rw [Thread.call?, hcurrent, Option.bind_some, Work.call?_of_waiting hjob]
    · case h_2 hcurrent => rw [Thread.call?, hcurrent, Option.bind_none]

theorem Bootstrap.abort_makes (b : Bootstrap α) (e : BootFailure) :
    w.Makes (some (.trigger .fatalBootstrap)) (b.abort w e).1 := by
  have hnow : ∀ u : World α, u.becomeFailed.1.now = u.now := fun u => by
    have heffects : Effects true _ _ := u.leaveBootstrap_effects (.inr rfl) 0
    exact heffects.now
  rw [Bootstrap.abort, World.Makes, World.calls_trigger, hnow]
  exact congrArg (· ++ _) (World.calls_leaveBootstrap _)

theorem World.calls_foldl_error (w : World α) (errors : List CloseFailure)
    (message : String) (fields : CloseFailure → List (String × String)) :
    (errors.foldl (fun w failure => w.error message (fields failure)) w).calls = w.calls := by
  induction errors generalizing w with
  | nil => rfl
  | cons failure rest ih => exact ih _

theorem Bootstrap.step_makes {w' : World α} {b : Bootstrap α}
    {next : Bootstrap α ⊕ Bootstrap.Result α} (h : b.step w = some (w', next)) :
    w.Makes (b.call? w) w' := by
  cases Bootstrap.step_steps h with
  | finish hstand hwaiting =>
    rw [Bootstrap.call?, hstand]
    exact .none rfl
  | refuse hstand hwaiting haborted =>
    rw [Bootstrap.call?, hstand]
    exact .none rfl
  | begin hstand hwaiting haborted =>
    rw [Bootstrap.call?, hstand]
    exact .none (World.calls_note_eq rfl)
  | work hstand hjob =>
    simp only [Bootstrap.call?, hstand, hjob]
    exact Work.step_makes hjob
  | done hstand hjob =>
    have hmakes := Work.step_makes hjob
    rw [Work.call?_of_result hjob] at hmakes
    simp only [Bootstrap.call?, hstand, hjob, Work.call?_of_result hjob]
    exact .none ((World.calls_note_eq rfl).trans hmakes.eq)
  | @fail name reason limit due job w₁ hstand hjob =>
    have hmakes := Work.step_makes hjob
    rw [Work.call?_of_result hjob] at hmakes
    have heffects : Effects true _ _ := Work.step_effects hjob
    have hnow : w₁.now = w.now := heffects.now
    simp only [Bootstrap.call?, hstand, hjob]
    rw [World.Makes, (b.abort_makes _ : World.Makes w₁ _ _), hmakes.eq, hnow]
  | timeOut hstand hjob hdue =>
    simp only [Bootstrap.call?, hstand, hjob, if_pos hdue]
    rw [World.Makes, (b.abort_makes _ : World.Makes (w.giveUp _) _ _), World.calls_giveUp]
    rfl
  | tornDown hstand hr =>
    rw [Bootstrap.call?, hstand]
    exact .none ((World.calls_foldl_error ..).trans (World.calls_note_eq rfl))

theorem Bootstrap.call?_of_waiting {b : Bootstrap α} (h : b.step w = none) : b.call? w = none := by
  unfold Bootstrap.call?
  split
  · rfl
  · rfl
  · case h_3 name limit due job hstand =>
    simp only [Bootstrap.step, hstand] at h
    split at h
    · cases h
    · cases h
    · cases h
    · case h_4 hjob =>
      split at h
      · cases h
      · case isFalse hnot => simp only [hjob, if_neg hnot]

theorem Task.step_makes {w' : World α} {t t' : Task α} (h : t.step w = some (w', t')) :
    w.Makes (t.call? w) w' := by
  cases Task.step_steps h with
  | work hjob => exact Work.step_makes hjob
  | worked hjob => exact Work.step_makes hjob
  | boot hb => exact Bootstrap.step_makes hb
  | booted hb => exact Bootstrap.step_makes hb

theorem Task.call?_of_waiting {t : Task α} (h : t.step w = none) : t.call? w = none := by
  cases t with
  | ended => rfl
  | work job =>
    simp only [Task.step] at h
    split at h
    · cases h
    · cases h
    · case h_3 hjob => exact Work.call?_of_waiting hjob
  | bootstrap b =>
    simp only [Task.step] at h
    split at h
    · cases h
    · cases h
    · case h_3 hb => exact Bootstrap.call?_of_waiting hb

/-! ## Runs -/

namespace Process

/-- **A choice makes the call that can be told beforehand, and no other one.** -/
theorem take_makes (p : Process α) (c : Choice α) :
    p.world.Makes (p.call? c) (p.take c).world := by
  cases c with
  | task i =>
    simp only [call?, take]
    split
    · case h_1 t ht =>
      rw [ht, Option.bind_some]
      split
      · case h_1 w t' hstep => exact Task.step_makes hstep
      · case h_2 hwaits =>
        rw [Task.call?_of_waiting hwaits]
        exact .none rfl
    · case h_2 hnone =>
      rw [hnone]
      exact .none rfl
  | drop i =>
    simp only [take]
    split
    · exact .none (World.calls_giveUp _)
    · exact .none rfl
  | thread i =>
    simp only [take]
    split
    · case h_1 w hstep =>
      obtain ⟨t, w₁, t', ht, hthread, rfl⟩ := World.stepThread_steps hstep
      have hmakes : p.world.Makes _ w₁ := Thread.step_makes hthread
      rw [call?, ht]
      exact hmakes
    · case h_2 hwaits =>
      have hnone : p.call? (.thread i) = none := by
        rw [call?]
        cases ht : p.world.threads[i]? with
        | none => rfl
        | some t => exact Thread.call?_of_waiting (World.step_of_stepThread_none hwaits ht)
      rw [hnone]
      exact .none rfl
  | becomeRunning => exact .none (World.calls_leaveBootstrap _)
  | becomeFailed => exact .none (World.calls_leaveBootstrap _)
  | clock time =>
    simp only [take]
    split <;> exact .none rfl
  | _ => exact .none rfl

theorem foldl_calls (p : Process α) (choices : List (Choice α)) :
    (choices.foldl take p).world.calls = p.world.calls ++ p.made choices := by
  induction choices generalizing p with
  | nil => exact (List.append_nil _).symm
  | cons c rest ih =>
    rw [List.foldl_cons, ih, p.take_makes c, List.append_assoc, made]

/-- **Just the calls that are made are noted.** -/
theorem run_calls (closeTimeout : Duration) (choices : List (Choice α)) :
    (run closeTimeout choices).world.calls = (start closeTimeout).made choices :=
  foldl_calls _ choices

end Process

/-! ## Answers -/

namespace World

/-- Whoever hands `r` over goes on at once: an action that must be accepted, one that need not, and
a worker that is up. -/
structure GoesOn (w : World α) (r : Resource (Action α)) (w' : World α) : Prop where
  register : ∀ value rest,
    (Work.mk .none value (.register r :: rest)).step w = some (w', .inl (.mk .none value rest))
  tryRegister : ∀ value rest, (Work.mk .none value (.tryRegister r :: rest)).step w =
    some (w'.record .accepted, .inl (.mk .none value rest))
  worker : ∀ number value,
    (Worker.starting number (.mk .none value []) r).step w = some (w', .settled (.ok ()))

/-- Whoever hands `r` over waits for a close. -/
structure WaitsFor (w : World α) (r : Resource (Action α)) (c : Closing (Work α)) (w' : World α) :
    Prop where
  register : ∀ value rest, (Work.mk .none value (.register r :: rest)).step w =
    some (w', .inl (.mk (.refusal false c) value rest))
  tryRegister : ∀ value rest, (Work.mk .none value (.tryRegister r :: rest)).step w =
    some (w', .inl (.mk (.refusal true c) value rest))
  worker : ∀ number value,
    (Worker.starting number (.mk .none value []) r).step w = some (w', .refused c)

/-- Whoever waits for the close `c` gets the refusal: the action fails with it or tells it, and the
worker has failed. -/
structure IsRefused (w : World α) (c : Closing (Work α)) (w' : World α) : Prop where
  register : ∀ value rest, (Work.mk (.refusal false c) value rest).step w =
    some (w', .inr (.error (refusalMessage c.name)))
  tryRegister : ∀ value rest, (Work.mk (.refusal true c) value rest).step w =
    some (w'.record (.refused (refusalMessage c.name)), .inl (.mk .none value rest))
  worker : (Worker.refused c).step w = some (w', .settled (.error (refusalMessage c.name)))

/-- What comes of hand-overs in a world, for whoever makes them. -/
structure Answers (closeTimeout : Duration) (w : World α) : Prop where
  /-- Before the first trigger the coordinator keeps the resource under a ticket of its own. -/
  accepts : w.triggers = [] → ∀ r, ∃ w', w.GoesOn r w' ∧
    w'.coordinator.entries = w.coordinator.entries ++ [⟨w.offered.length, r⟩] ∧
    w'.notes = w.notes ++
      [(w.now, .register w.offered.length r.name), (w.now, .accepted w.offered.length)]
  /-- From then on the resource is closed at once. -/
  refuses : w.triggers ≠ [] → ∀ r, ∃ w', w.WaitsFor r ⟨w.offered.length, r.name, r.stage,
      w.now + closeTimeout.millis, .ofActions r.close⟩ w' ∧
    w'.coordinator.entries = [] ∧
    w'.notes = w.notes ++ [(w.now, .register w.offered.length r.name)] ∧
    w'.history = w.history ++ [(w.now, .closing w.offered.length r.name)]
  /-- The steps of the close are those of whoever waits for it. -/
  closes : ∀ c w' close, c.work.step w = some (w', .inl close) →
    (∀ tolerated value rest, (Work.mk (.refusal tolerated c) value rest).step w =
      some (w', .inl (.mk (.refusal tolerated { c with work := close }) value rest))) ∧
    (Worker.refused c).step w = some (w', .refused { c with work := close })
  /-- The refusal comes with the end of the close, whatever that is, or at the deadline. -/
  ended : ∀ c w' result, c.work.step w = some (w', .inr result) → ∃ w'', w.IsRefused c w'' ∧
    (w.now, Note.refused c.ticket (refusalMessage c.name)) ∈ w''.notes
  cutOff : ∀ c, c.work.step w = none → c.due ≤ w.now → ∃ w', w.IsRefused c w' ∧
    (w.now, Note.refused c.ticket (refusalMessage c.name)) ∈ w'.notes
  waits : ∀ c, c.work.step w = none → w.now < c.due →
    (∀ tolerated value rest, (Work.mk (.refusal tolerated c) value rest).step w = none) ∧
    (Worker.refused c).step w = none

theorem goesOn_of_register {r : Resource (Action α)} {w' : World α}
    (h : w.register r = (w', none)) : w.GoesOn r w' := by
  refine ⟨fun value rest => ?_, fun value rest => ?_, fun number value => ?_⟩
  · simp only [Work.step, Action.begin, h]
  · simp only [Work.step, Action.begin, h]
  · simp only [Worker.step, Work.step, Worker.enroll, h]

theorem waitsFor_of_register {r : Resource (Action α)} {c : Closing (Work α)} {w' : World α}
    (h : w.register r = (w', some c)) : w.WaitsFor r c w' := by
  refine ⟨fun value rest => ?_, fun value rest => ?_, fun number value => ?_⟩
  · simp only [Work.step, Action.begin, h]
  · simp only [Work.step, Action.begin, h]
  · simp only [Worker.step, Work.step, Worker.enroll, h]

theorem isRefused_of_ended {c : Closing (Work α)} {w' : World α}
    {result : Except String (Value α)} (h : c.work.step w = some (w', .inr result)) :
    w.IsRefused c (w'.endRefusal c (some result)) := by
  obtain ⟨ticket, name, stage, due, job⟩ := c
  refine ⟨fun value rest => ?_, fun value rest => ?_, ?_⟩
  · simp only [Work.step, h, Work.afterRefusal, Bool.false_eq_true, if_false]
  · simp only [Work.step, h, Work.afterRefusal, if_true]
  · simp only [Worker.step, h]

theorem isRefused_of_due {c : Closing (Work α)} (h : c.work.step w = none)
    (hdue : c.due ≤ w.now) : w.IsRefused c (w.endRefusal c none) := by
  obtain ⟨ticket, name, stage, due, job⟩ := c
  refine ⟨fun value rest => ?_, fun value rest => ?_, ?_⟩
  · simp only [Work.step, h, if_pos hdue, Work.afterRefusal, Bool.false_eq_true, if_false]
  · simp only [Work.step, h, if_pos hdue, Work.afterRefusal, if_true]
  · simp only [Worker.step, h, if_pos hdue]

theorem endRefusal_told (w : World α) (c : Closing (Work α))
    (result : Option (Except String (Value α))) :
    (w.now, Note.refused c.ticket (refusalMessage c.name)) ∈ (w.endRefusal c result).notes := by
  have hnow : (w.endClose c result).1.now = w.now := by
    match result with
    | some (.ok v) => rfl
    | some (.error e) => rfl
    | none => rfl
  unfold endRefusal
  split
  · case h_1 w₁ u h =>
    rw [h] at hnow
    exact List.mem_append_right _ (by simp [← hnow])
  · case h_2 w₁ e h =>
    rw [h] at hnow
    exact List.mem_append_right _ (by simp [← hnow, warn])

end World

/-- **Before the shutdown what is handed over is kept; later it is closed and comes back.** -/
theorem Scene.Balanced.answers {closeTimeout : Duration} {s : Scene α} (hb : s.Balanced)
    (hs : s.1.Standing) (htimeout : s.1.coordinator.closeTimeout = closeTimeout) :
    s.1.Answers closeTimeout := by
  have hticket : s.1.offered.length = s.1.coordinator.issued := by
    rw [hb.offered, List.length_range]
  subst htimeout
  constructor
  case accepts =>
    intro hnone r
    have hregister := World.register_of_accepting (hs.triggers_eq_nil_iff.mp hnone) r
    refine ⟨_, World.goesOn_of_register hregister, ?_, ?_⟩
    · rw [hticket]
    · rw [hticket, List.append_assoc, List.singleton_append]
  case refuses =>
    intro hsome r
    have hrefusing : s.1.coordinator.accepting = false := by
      rwa [ne_eq, hs.triggers_eq_nil_iff, Bool.not_eq_true] at hsome
    -- the first trigger has left all that was held to the pass
    have hentries : s.1.coordinator.entries = [] := by
      cases hs with
      | awaited hyes => simp [hyes] at hrefusing
      | underWay _ _ _ hentries => exact hentries
      | ended _ _ _ hentries => exact hentries
    have hregister := World.register_of_refusing hrefusing r
    rw [hticket]
    exact ⟨_, World.waitsFor_of_register hregister, hentries, rfl, rfl⟩
  case closes =>
    rintro ⟨ticket, name, stage, due, job⟩ w' close hjob
    refine ⟨fun tolerated value rest => ?_, ?_⟩
    · simp only [Work.step, hjob]
    · simp only [Worker.step, hjob]
  case ended =>
    intro c w' result hjob
    have heffects : Effects true _ _ := Work.step_effects hjob
    have hnow : w'.now = s.1.now := heffects.now
    exact ⟨_, World.isRefused_of_ended hjob, hnow ▸ w'.endRefusal_told c (some result)⟩
  case cutOff =>
    intro c hjob hdue
    exact ⟨_, World.isRefused_of_due hjob hdue, s.1.endRefusal_told c none⟩
  case waits =>
    rintro ⟨ticket, name, stage, due, job⟩ hjob hdue
    have hnot := Nat.not_le.mpr hdue
    refine ⟨fun tolerated value rest => ?_, ?_⟩
    · simp only [Work.step, hjob, if_neg hnot]
    · simp only [Worker.step, hjob, if_neg hnot]

end EventIntake.Lifecycle
