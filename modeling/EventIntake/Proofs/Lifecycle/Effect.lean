import EventIntake.Proofs.Lifecycle.Step
import Mathlib.Algebra.Order.Group.Multiset
import Mathlib.Logic.Relation

/-!
# What a step does to what is shared

Everything that goes on in a process changes the world by a handful of effects, and every statement
about all runs is proved by looking at these.  An `Effect` relates two `Scene`s, a scene being a
world with the hand-overs under way in it: a refused hand-over joins them, and leaves them when it
comes back or is given up.

`Work.step_effects` says that a step of any work is a sequence of effects, whatever is nested in it.
The hand-overs of the others are left alone (`Effects.frame`), so the parts of a process can be put
together.
-/

namespace EventIntake.Lifecycle

variable {α : Type}

def Event.closing? : Event → Option (Nat × String)
  | .closing ticket name => some (ticket, name)
  | _ => none

def Note.isPhase : Note → Bool
  | .phaseBegun _ | .phaseDone _ => true
  | _ => false

def Thread.isAsking : Thread α → Bool
  | .trigger _ false => true
  | _ => false

/-- A change that the coordinator takes no part in and that closes nothing. -/
structure World.Quiet (w w' : World α) : Prop where
  coordinator : w'.coordinator = w.coordinator
  now : w'.now = w.now
  history : ∃ l, w'.history = w.history ++ l ∧ ∀ e ∈ l, e.2.closing? = none
  notes : ∃ l, w'.notes = w.notes ++ l ∧ ∀ n ∈ l, n.1 = w.now ∧ n.2.isPhase
  threads : ∃ l, w'.threads = w.threads ++ l ∧ ∀ t ∈ l, t.isAsking
  journal : w.journal.Grows w'.journal

namespace World

theorem quiet_record (w : World α) {e : Event} (he : e.closing? = none) : Quiet w (w.record e) :=
  ⟨rfl, rfl, ⟨[(w.now, e)], rfl, by simpa using he⟩, ⟨[], by simp [record]⟩, ⟨[], by simp [record]⟩,
    .refl _⟩

theorem quiet_note (w : World α) {n : Note} (hn : n.isPhase) : Quiet w (w.note n) :=
  ⟨rfl, rfl, ⟨[], by simp [note]⟩, ⟨[(w.now, n)], rfl, by simpa using hn⟩, ⟨[], by simp [note]⟩,
    .refl _⟩

theorem quiet_journal (w : World α) {j : Journal} (hj : w.journal.Grows j) :
    Quiet w { w with journal := j } :=
  ⟨rfl, rfl, ⟨[], by simp⟩, ⟨[], by simp⟩, ⟨[], by simp⟩, hj⟩

theorem quiet_error (w : World α) (message : String) (fields : List (String × String)) :
    Quiet w (w.error message fields) := w.quiet_journal (.log ..)

theorem quiet_spawn (w : World α) (cause : Cause) : Quiet w (w.spawn (.trigger cause false)) :=
  ⟨rfl, rfl, ⟨[], by simp [spawn]⟩, ⟨[], by simp [spawn]⟩,
    ⟨[.trigger cause false], rfl, by simp [Thread.isAsking]⟩, .refl _⟩

/-- The hand-over of `r`, if it is refused. -/
def refusalOf (w : World α) (r : Resource (Action α)) : Closing Unit :=
  ⟨w.coordinator.issued, r.name, r.stage, w.dueIn w.coordinator.closeTimeout, ()⟩

end World

/-- The hand-over that waits for a close, and those under way in the close. -/
def Closing.refusals (c : Closing (Work α)) : List (Closing Unit) :=
  ⟨c.ticket, c.name, c.stage, c.due, ()⟩ :: c.work.refusals

/-- A world with the hand-overs that are under way in it. -/
abbrev Scene (α : Type) := World α × Multiset (Closing Unit)

/-- What can happen to a scene; only where there are phases can a note be about one. -/
inductive Effect (phases : Bool) : Scene α → Scene α → Prop
  | quiet {w w' : World α} {P} (h : w.Quiet w') (hnotes : phases = false → w'.notes = w.notes) :
      Effect phases (w, P) (w', P)
  | accept {w : World α} {P} (r : Resource (Action α)) (h : w.coordinator.accepting = true) :
      Effect phases (w, P) ({ w with
        coordinator := { w.coordinator with
          issued := w.coordinator.issued + 1
          entries := w.coordinator.entries ++ [⟨w.coordinator.issued, r⟩] }
        notes := w.notes ++ [(w.now, .register w.coordinator.issued r.name),
          (w.now, .accepted w.coordinator.issued)] }, P)
  | refuse {w : World α} {P} (r : Resource (Action α)) (h : w.coordinator.accepting = false) :
      Effect phases (w, P) ({ w with
        coordinator := { w.coordinator with issued := w.coordinator.issued + 1 }
        notes := w.notes ++ [(w.now, .register w.coordinator.issued r.name)]
        history := w.history ++ [(w.now, .closing w.coordinator.issued r.name)] },
        w.refusalOf r ::ₘ P)
  | settle {w : World α} {P} (c : Closing Unit) : Effect phases (w, c ::ₘ P)
      ({ w with notes := w.notes ++ [(w.now, .refused c.ticket (refusalMessage c.name))] }, P)
  | giveUp {w : World α} {P} (l : List (Closing Unit)) : Effect phases (w, ↑l + P)
      ({ w with notes := w.notes ++ l.map fun c => (w.now, .dropped c.ticket) }, P)
  | shutDown {w : World α} {P} (cause : Cause) (h : w.coordinator.accepting = true) :
      Effect phases (w, P) ({ w with
        coordinator := { w.coordinator with
          accepting := false
          entries := []
          state := .shuttingDown
          subscribers := w.coordinator.subscribers.map fun _ => some cause }
        threads := w.threads ++ [.pass ⟨cause, none, closingOrder w.coordinator.entries, [], []⟩]
        notes := w.notes ++ [(w.now, .trigger cause), (w.now, .state .shuttingDown)] }, P)
  | ask {w : World α} {P} (cause : Cause) (h : w.coordinator.accepting = false) :
      Effect phases (w, P) ({ w with notes := w.notes ++ [(w.now, .trigger cause)] }, P)
  | tell {w : World α} {P} {r : Report} (h : w.coordinator.report = some r) :
      Effect phases (w, P) ({ w with notes := w.notes ++ [(w.now, .returned r)] }, P)
  | leave {w : World α} {P} {s : State} (hs : s = .running ∨ s = .failedStartup)
      (h : w.coordinator.state = .bootstrapping) :
      Effect phases (w, P) ({ w with
        coordinator := { w.coordinator with state := s }
        notes := w.notes ++ [(w.now, .state s)] }, P)

abbrev Effects (phases : Bool) : Scene α → Scene α → Prop :=
  Relation.ReflTransGen (Effect phases)

variable {phases : Bool}

theorem Effect.frame {a b : Scene α} (h : Effect phases a b) (F : Multiset (Closing Unit)) :
    Effect phases (a.1, a.2 + F) (b.1, b.2 + F) := by
  cases h with
  | quiet h hnotes => exact .quiet h hnotes
  | accept r h => exact .accept r h
  | refuse r h =>
    rw [Multiset.cons_add]
    exact .refuse r h
  | settle c =>
    rw [Multiset.cons_add]
    exact .settle c
  | giveUp l =>
    rw [add_assoc]
    exact .giveUp l
  | shutDown cause h => exact .shutDown cause h
  | ask cause h => exact .ask cause h
  | tell h => exact .tell h
  | leave hs h => exact .leave hs h

/-- Effects leave the hand-overs of everybody else alone. -/
theorem Effects.frame {a b : Scene α} (h : Effects phases a b) (F : Multiset (Closing Unit)) :
    Effects phases (a.1, a.2 + F) (b.1, b.2 + F) := by
  induction h with
  | refl => exact .refl
  | tail _ hstep ih => exact ih.tail (hstep.frame F)

theorem Effects.cons {w w' : World α} {P P' : Multiset (Closing Unit)}
    (h : Effects phases (w, P) (w', P')) (c : Closing Unit) :
    Effects phases (w, c ::ₘ P) (w', c ::ₘ P') := by
  have hframe := h.frame {c}
  rwa [add_comm, Multiset.singleton_add, add_comm, Multiset.singleton_add] at hframe

theorem Effects.of {a b : Scene α} (h : Effect phases a b) : Effects phases a b := .single h

theorem Effects.quiet {w w' : World α} (P : Multiset (Closing Unit)) (h : w.Quiet w')
    (hnotes : w'.notes = w.notes) : Effects phases (w, P) (w', P) :=
  .single (.quiet h fun _ => hnotes)

theorem Effect.journal {a b : Scene α} (h : Effect phases a b) : a.1.journal.Grows b.1.journal := by
  cases h with
  | quiet h hnotes => exact h.journal
  | _ => exact .refl _

theorem Effect.now {a b : Scene α} (h : Effect phases a b) : b.1.now = a.1.now := by
  cases h with
  | quiet h hnotes => exact h.now
  | _ => rfl

theorem Effects.now {a b : Scene α} (h : Effects phases a b) : b.1.now = a.1.now := by
  induction h with
  | refl => rfl
  | tail _ hstep ih => exact hstep.now.trans ih

/-! ## Operations of the world -/

namespace World

/-- What a hand-over adds to those under way: nothing when it is accepted. -/
def refusalsOf : Option (Closing (Work α)) → List (Closing Unit)
  | none => []
  | some c => c.refusals

theorem register_of_accepting {w : World α} (h : w.coordinator.accepting = true)
    (r : Resource (Action α)) : w.register r = ({ w with
      coordinator := { w.coordinator with
        issued := w.coordinator.issued + 1
        entries := w.coordinator.entries ++ [⟨w.coordinator.issued, r⟩] }
      notes := w.notes ++ [(w.now, .register w.coordinator.issued r.name)] ++
        [(w.now, .accepted w.coordinator.issued)] }, none) := by
  simp [register, Coordinator.offer, h, note]

theorem register_of_refusing {w : World α} (h : w.coordinator.accepting = false)
    (r : Resource (Action α)) : w.register r = ({ w with
      coordinator := { w.coordinator with issued := w.coordinator.issued + 1 }
      notes := w.notes ++ [(w.now, .register w.coordinator.issued r.name)]
      history := w.history ++ [(w.now, .closing w.coordinator.issued r.name)]
      journal := w.journal.warn "Registration after shutdown started, closing immediately"
        [("resource", r.name)] },
      some ⟨w.coordinator.issued, r.name, r.stage, w.dueIn w.coordinator.closeTimeout,
        .ofActions r.close⟩) := by
  simp [register, Coordinator.offer, h, note, warn, beginClose, record, dueIn]

theorem register_effects (w : World α) (r : Resource (Action α)) :
    Effects phases (w, 0) ((w.register r).1, ↑(refusalsOf (w.register r).2)) := by
  cases hacc : w.coordinator.accepting with
  | true =>
    have h : Effect phases (w, 0) (_, 0) := .accept r hacc
    simpa [register_of_accepting hacc, refusalsOf] using Effects.of h
  | false =>
    have hwarn := w.quiet_journal (.warn w.journal
      "Registration after shutdown started, closing immediately" [("resource", r.name)])
    have h : Effects phases (w, 0) _ := (Effects.quiet 0 hwarn rfl).tail (.refuse r hacc)
    simpa [register_of_refusing hacc, refusalOf, dueIn, refusalsOf, Closing.refusals,
      Work.ofActions, Work.refusals, Pause.refusals] using h

theorem trigger_effects (w : World α) (cause : Cause) (P : Multiset (Closing Unit)) :
    Effects phases (w, P) (w.trigger cause, P) := by
  cases hacc : w.coordinator.accepting with
  | true =>
    have h : Effect phases (w, P) (_, P) := .shutDown cause hacc
    simpa [trigger, Coordinator.drain, hacc, note, spawn] using Effects.of h
  | false =>
    have h : Effect phases (w, P) (_, P) := .ask cause hacc
    simpa [trigger, Coordinator.drain, hacc, note] using Effects.of h

theorem leaveBootstrap_effects (w : World α) {s : State} (hs : s = .running ∨ s = .failedStartup)
    (P : Multiset (Closing Unit)) : Effects phases (w, P) ((w.leaveBootstrap s).1, P) := by
  by_cases h : w.coordinator.state = .bootstrapping
  · have heffect : Effect phases (w, P) (_, P) := .leave hs h
    simpa [leaveBootstrap, Coordinator.leaveBootstrap, h, note] using Effects.of heffect
  · simp only [leaveBootstrap, Coordinator.leaveBootstrap, h, if_false]
    exact .refl

theorem endClose_some_effects (w : World α) (c : Closing (Work α))
    (result : Except String (Value α)) (P : Multiset (Closing Unit)) :
    Effects phases (w, P) ((w.endClose c (some result)).1, P) := by
  cases result with
  | ok v => exact .quiet P (w.quiet_record rfl) rfl
  | error e => exact .quiet P (w.quiet_record rfl) rfl

theorem giveUp_effects (w : World α) (l : List (Closing Unit)) :
    Effects phases (w, ↑l) (w.giveUp l, 0) := by
  have h : Effect phases (w, ↑l + 0) (w.giveUp l, 0) := .giveUp l
  rw [add_zero] at h
  exact .single h

theorem endClose_none_effects (w : World α) (c : Closing (Work α)) :
    Effects phases (w, ↑c.work.refusals) ((w.endClose c none).1, 0) :=
  w.giveUp_effects c.work.refusals

theorem endRefusal_effects {w : World α} {c : Closing (Work α)}
    {result : Option (Except String (Value α))} {Q : Multiset (Closing Unit)}
    (h : Effects phases (w, Q) ((w.endClose c result).1, 0)) :
    Effects phases (w, ⟨c.ticket, c.name, c.stage, c.due, ()⟩ ::ₘ Q)
      (w.endRefusal c result, 0) := by
  have hcons := h.cons ⟨c.ticket, c.name, c.stage, c.due, ()⟩
  unfold endRefusal
  cases hend : w.endClose c result with
  | mk w' outcome =>
    rw [hend] at hcons
    cases outcome with
    | ok u => exact hcons.tail (.settle _)
    | error e =>
      have hquiet := w'.quiet_journal
        (.warn w'.journal "Late resource failed to close" [("error", e.message)])
      exact (hcons.tail (.quiet hquiet fun _ => rfl)).tail (.settle _)

theorem endRefusal_some_effects {w w' : World α} {c : Closing (Work α)}
    {result : Except String (Value α)} (h : Effects phases (w, ↑c.work.refusals) (w', 0)) :
    Effects phases (w, ↑c.refusals) (w'.endRefusal c (some result), 0) :=
  (h.cons _).trans (endRefusal_effects (w'.endClose_some_effects c result 0))

theorem endRefusal_none_effects (w : World α) (c : Closing (Work α)) :
    Effects phases (w, ↑c.refusals) (w.endRefusal c none, 0) :=
  endRefusal_effects (w.endClose_none_effects c)

end World

/-! ## Steps of work -/

def Stepped.refusals : Stepped α → List (Closing Unit)
  | .inl job => job.refusals
  | .inr _ => []

theorem workersRefusals_waiting (workers : List ((List (Action α) × Resource (Action α)) × Nat)) :
    workersRefusals (workers.map fun ((start, r), i) => Worker.waiting i start r) = [] := by
  induction workers with
  | nil => rfl
  | cons w rest ih => simpa [workersRefusals, Worker.refusals] using ih

theorem workersRefusals_of_results {workers : List (Worker α)} {results : List (Except String Unit)}
    (h : Worker.results workers = some results) : workersRefusals workers = [] := by
  induction workers generalizing results with
  | nil => rfl
  | cons w rest ih =>
    cases w with
    | settled r =>
      simp only [Worker.results, Option.map_eq_some_iff] at h
      obtain ⟨results, hrest, -⟩ := h
      simpa [workersRefusals, Worker.refusals] using ih hrest
    | waiting number start r => simp [Worker.results] at h
    | starting number start r => simp [Worker.results] at h
    | refused c => simp [Worker.results] at h

theorem Action.begin_effects (w : World α) (value : Value α) (rest : List (Action α))
    (a : Action α) :
    Effects phases (w, 0) ((a.begin w value rest).1, ↑(a.begin w value rest).2.refusals) := by
  cases a with
  | log text => exact .quiet 0 (w.quiet_record rfl) rfl
  | state => exact .quiet 0 (w.quiet_record rfl) rfl
  | registered => exact .quiet 0 (w.quiet_record rfl) rfl
  | sleep time => exact .refl
  | fail message => exact .refl
  | hang => exact .refl
  | value v => exact .refl
  | register r =>
    have h : Effects phases _ _ := w.register_effects r
    simp only [Action.begin]
    cases hr : w.register r with
    | mk w' c =>
      rw [hr] at h
      cases c with
      | none => exact h
      | some c => exact h
  | tryRegister r =>
    have h : Effects phases _ _ := w.register_effects r
    simp only [Action.begin]
    cases hr : w.register r with
    | mk w' c =>
      rw [hr] at h
      cases c with
      | none => exact h.tail (.quiet (w'.quiet_record rfl) fun _ => rfl)
      | some c => exact h
  | trigger cause => exact w.trigger_effects cause 0
  | spawnTrigger cause => exact .quiet 0 (w.quiet_spawn cause) rfl
  | deploy deadline workers =>
    have hnone := workersRefusals_waiting workers.zipIdx
    simp only [Action.begin, Stepped.refusals, Work.refusals, Pause.refusals, hnone]
    exact .refl

theorem Work.afterRefusal_effects {w w' : World α} {tolerated : Bool} {c : Closing (Work α)}
    {result : Option (Except String (Value α))} {value : Value α} {rest : List (Action α)}
    (h : Effects phases (w, ↑c.refusals) (w'.endRefusal c result, 0)) :
    Effects phases (w, ↑c.refusals) ((Work.afterRefusal w' tolerated c result value rest).1,
      ↑(Work.afterRefusal w' tolerated c result value rest).2.refusals) := by
  cases tolerated with
  | true => exact h.tail (.quiet (World.quiet_record _ rfl) fun _ => rfl)
  | false => exact h

theorem Work.afterDeployment_effects {w w' : World α} {deadline : Duration} {due : Nat}
    {workers : List (Worker α)} {rest : List (Action α)} {next : Stepped α}
    (h : Work.afterDeployment w deadline due workers rest = some (w', next)) :
    Effects phases (w, ↑(workersRefusals workers)) (w', ↑next.refusals) := by
  unfold Work.afterDeployment at h
  split at h
  · case h_1 results hresults =>
    have hnone := workersRefusals_of_results hresults
    split at h <;>
    · cases h
      rw [hnone]
      exact .refl
  · split at h
    · cases h
      exact w.giveUp_effects (workersRefusals workers)
    · cases h

theorem Worker.enroll_effects (w : World α) (r : Resource (Action α)) :
    Effects phases (w, 0) ((Worker.enroll w r).1, ↑(Worker.enroll w r).2.refusals) := by
  have h : Effects phases _ _ := w.register_effects r
  unfold Worker.enroll
  cases hr : w.register r with
  | mk w' c =>
    rw [hr] at h
    cases c with
    | none => exact h
    | some c => exact h

mutual

theorem Work.Steps.effects {w w' : World α} {job : Work α} {next : Stepped α}
    (h : Work.Steps w job w' next) : Effects phases (w, ↑job.refusals) (w', ↑next.refusals) := by
  cases h with
  | finish value => exact .refl
  | begin a value rest => exact a.begin_effects w value rest
  | wake h value rest => exact .refl
  | told hr value rest => exact (Effects.quiet 0 (World.quiet_record _ rfl) rfl).head (.tell hr)
  | close h tolerated ticket name stage due value rest =>
    exact (Work.Steps.effects h).cons ⟨ticket, name, stage, due, ()⟩
  | @closed w₁ job result h tolerated ticket name stage due value rest =>
    exact Work.afterRefusal_effects (c := ⟨ticket, name, stage, due, job⟩)
      (World.endRefusal_some_effects (Work.Steps.effects h))
  | @cutOff job due h hdue tolerated ticket name stage value rest =>
    exact Work.afterRefusal_effects (c := ⟨ticket, name, stage, due, job⟩)
      (w.endRefusal_none_effects _)
  | deploy h deadline due value rest => exact WorkersSteps.effects h
  | deployed hworkers h value => exact Work.afterDeployment_effects h

theorem Worker.Steps.effects {w w' : World α} {worker next : Worker α}
    (h : Worker.Steps w worker w' next) :
    Effects phases (w, ↑worker.refusals) (w', ↑next.refusals) := by
  cases h with
  | create number start r => exact .quiet 0 (w.quiet_record rfl) rfl
  | start h number r => exact Work.Steps.effects h
  | up h number r => exact (Work.Steps.effects h).trans (Worker.enroll_effects _ r)
  | fail h number r => exact Work.Steps.effects h
  | close h ticket name stage due =>
    exact (Work.Steps.effects h).cons ⟨ticket, name, stage, due, ()⟩
  | closed h ticket name stage due =>
    exact World.endRefusal_some_effects (c := ⟨ticket, name, stage, due, _⟩) (Work.Steps.effects h)
  | cutOff h hdue ticket name stage =>
    exact w.endRefusal_none_effects ⟨ticket, name, stage, _, _⟩

theorem WorkersSteps.effects {w w' : World α} {workers next : List (Worker α)}
    (h : WorkersSteps w workers w' next) :
    Effects phases (w, ↑(workersRefusals workers)) (w', ↑(workersRefusals next)) := by
  cases h with
  | here h rest =>
    have hone := (Worker.Steps.effects h).frame ↑(workersRefusals rest)
    simpa [workersRefusals] using hone
  | @there w₁ worker rest rest' hworker h =>
    have hothers := (WorkersSteps.effects h).frame (Multiset.ofList worker.refusals)
    simp only [workersRefusals, ← Multiset.coe_add]
    rw [add_comm, add_comm (Multiset.ofList worker.refusals)]
    exact hothers

end

/-- **A step of work is a sequence of effects.**  Whatever hand-overs it has under way before are
under way after it, have come back or were given up. -/
theorem Work.step_effects {w w' : World α} {job : Work α} {next : Stepped α}
    (h : job.step w = some (w', next)) :
    Effects phases (w, ↑job.refusals) (w', ↑next.refusals) := (Work.step_steps h).effects

end EventIntake.Lifecycle
