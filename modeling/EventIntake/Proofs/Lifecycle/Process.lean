import EventIntake.Proofs.Lifecycle.Turn

/-!
# Processes

A process is a world and the tasks of those outside who make calls on it: tasks that run actions,
and runs of phases.  `Process.run` lets it take any list of choices, one after the other: a task
begins, goes on or is dropped wherever it is, a thread goes on, the clock moves on, a state is
marked.  A choice that is not possible changes nothing.  So a statement about `Process.run` is one
about every interleaving, and `run_turns` brings it down to single turns.
-/

namespace EventIntake.Lifecycle

variable {α : Type} {phases : Bool}

inductive Task (α : Type) where
  | work (job : Work α)
  | bootstrap (bootstrap : Bootstrap α)
  | ended

namespace Task

def refusals : Task α → List (Closing Unit)
  | .work job => job.refusals
  | .bootstrap b => b.refusals
  | .ended => []

/-- The next step of the task, if it can go on at this instant. -/
def step (w : World α) : Task α → Option (World α × Task α)
  | .work job =>
    match job.step w with
    | some (w, .inl job) => some (w, .work job)
    | some (w, .inr _) => some (w, .ended)
    | none => none
  | .bootstrap b =>
    match b.step w with
    | some (w, .inl b) => some (w, .bootstrap b)
    | some (w, .inr _) => some (w, .ended)
    | none => none
  | .ended => none

end Task

structure Process (α : Type) where
  world : World α
  tasks : List (Task α) := []

inductive Choice (α : Type) where
  | call (actions : List (Action α))
  | wait
  | boot (phases : List (Phase α)) (aborted : Bool)
  | task (i : Nat)
  | drop (i : Nat)
  | thread (i : Nat)
  | becomeRunning
  | becomeFailed
  | subscribe
  | receive (subscriber : Nat)
  | clock (time : Nat)

namespace Process

def start (closeTimeout : Duration) : Process α := { world := { coordinator := { closeTimeout } } }

/-- The hand-overs under way in the tasks and in the threads. -/
def refusals (p : Process α) : List (Closing Unit) :=
  p.tasks.flatMap Task.refusals ++ p.world.refusals

def begin (p : Process α) (t : Task α) : Process α := { p with tasks := p.tasks ++ [t] }

def take (p : Process α) : Choice α → Process α
  | .call actions => p.begin (.work (.ofActions actions))
  | .wait => p.begin (.work (.mk .report .nothing []))
  | .boot phases aborted => p.begin (.bootstrap { waiting := phases, aborted })
  | .task i =>
    match p.tasks[i]? with
    | some t =>
      match t.step p.world with
      | some (world, t) => ⟨world, p.tasks.set i t⟩
      | none => p
    | none => p
  | .drop i =>
    match p.tasks[i]? with
    | some t => ⟨p.world.giveUp t.refusals, p.tasks.set i .ended⟩
    | none => p
  | .thread i =>
    match p.world.stepThread i with
    | some world => { p with world }
    | none => p
  | .becomeRunning => { p with world := p.world.becomeRunning.1 }
  | .becomeFailed => { p with world := p.world.becomeFailed.1 }
  | .subscribe =>
    { p with world := { p.world with coordinator := p.world.coordinator.subscribe.1 } }
  | .receive i =>
    { p with world := { p.world with coordinator := (p.world.coordinator.receive i).1 } }
  | .clock time =>
    if p.world.now ≤ time then { p with world := { p.world with now := time } } else p

def run (closeTimeout : Duration) (choices : List (Choice α)) : Process α :=
  choices.foldl take (start closeTimeout)

end Process

def Process.scene (p : Process α) : Scene α := (p.world, ↑p.refusals)

inductive Task.Steps (w : World α) : Task α → World α → Task α → Prop
  | work {job job' : Work α} {w' : World α} (h : job.step w = some (w', .inl job')) :
      Task.Steps w (.work job) w' (.work job')
  | worked {job : Work α} {w' : World α} {result : Except String (Value α)}
      (h : job.step w = some (w', .inr result)) : Task.Steps w (.work job) w' .ended
  | boot {b b' : Bootstrap α} {w' : World α} (h : b.step w = some (w', .inl b')) :
      Task.Steps w (.bootstrap b) w' (.bootstrap b')
  | booted {b : Bootstrap α} {w' : World α} {result : Bootstrap.Result α}
      (h : b.step w = some (w', .inr result)) : Task.Steps w (.bootstrap b) w' .ended

theorem Task.step_steps {w w' : World α} {t t' : Task α} (h : t.step w = some (w', t')) :
    Task.Steps w t w' t' := by
  cases t with
  | work job =>
    simp only [Task.step] at h
    split at h
    · case h_1 w₁ job' hjob =>
      cases h
      exact .work hjob
    · case h_2 w₁ result hjob =>
      cases h
      exact .worked hjob
    · cases h
  | bootstrap b =>
    simp only [Task.step] at h
    split at h
    · case h_1 w₁ b' hb =>
      cases h
      exact .boot hb
    · case h_2 w₁ result hb =>
      cases h
      exact .booted hb
    · cases h
  | ended => cases h

theorem Task.step_effects {w w' : World α} {t t' : Task α} (h : t.step w = some (w', t')) :
    Effects true (w, ↑t.refusals) (w', ↑t'.refusals) := by
  cases Task.step_steps h with
  | work hjob => exact Work.step_effects hjob
  | worked hjob => exact Work.step_effects hjob
  | boot hb => exact Bootstrap.step_effects hb
  | booted hb => exact Bootstrap.step_effects hb

namespace Process

theorem begin_scene (p : Process α) {t : Task α} (ht : t.refusals = []) :
    (p.begin t).scene = p.scene := by
  simp [begin, scene, refusals, ht]

theorem effects_set {p : Process α} {i : Nat} {t t' : Task α} {w' : World α}
    (ht : p.tasks[i]? = some t) (h : Effects phases (p.world, ↑t.refusals) (w', ↑t'.refusals)) :
    Effects phases p.scene (scene ⟨w', p.tasks.set i t'⟩) := by
  -- `others` are the hand-overs of the other tasks
  generalize hothers : Multiset.ofList ((p.tasks.set i .ended).flatMap Task.refusals) = others
  have hbefore := coe_flatMap_set Task.refusals ht Task.ended
  have hafter := coe_flatMap_set Task.refusals ht t'
  have hnone : Multiset.ofList (Task.refusals (.ended : Task α)) = 0 := rfl
  rw [hothers, hnone, add_zero] at hbefore
  rw [← hbefore, add_right_comm, add_comm others] at hafter
  have hset := add_right_cancel hafter
  have hframe := h.frame (others + ↑p.world.refusals)
  have hworld := h.world_refusals
  simp only [scene, refusals, ← Multiset.coe_add]
  rw [← hbefore, hset, hworld]
  rw [← add_assoc, ← add_assoc] at hframe
  rw [add_comm others]
  exact hframe

theorem effects_world {p : Process α} {w' : World α} (h : Effects phases (p.world, 0) (w', 0)) :
    Effects phases p.scene (scene { p with world := w' }) := by
  have hframe := h.frame ↑p.refusals
  have hworld := h.world_refusals
  simp only [zero_add] at hframe
  simp only [scene, refusals]
  rw [hworld]
  exact hframe

theorem take_turns (p : Process α) (c : Choice α) : Turns p.scene (p.take c).scene := by
  cases c with
  | call actions =>
    rw [take, p.begin_scene rfl]
  | wait =>
    rw [take, p.begin_scene rfl]
  | boot phases aborted =>
    rw [take, p.begin_scene rfl]
  | task i =>
    simp only [take]
    split
    · case h_1 t ht =>
      split
      · case h_1 w t' hstep => exact (effects_set ht (Task.step_effects hstep)).turns
      · exact .refl
    · exact .refl
  | drop i =>
    simp only [take]
    split
    · case h_1 t ht =>
      exact (@effects_set α false _ _ _ _ _ ht (p.world.giveUp_effects t.refusals)).turns
    · exact .refl
  | thread i =>
    simp only [take]
    split
    · case h_1 w hstep =>
      have hturns := World.stepThread_turns hstep ↑(p.tasks.flatMap Task.refusals)
      simp only [scene, refusals, ← Multiset.coe_add]
      rw [add_comm, add_comm _ (Multiset.ofList w.refusals)]
      exact hturns
    · exact .refl
  | becomeRunning =>
    exact (@effects_world α false _ _ (p.world.leaveBootstrap_effects (.inl rfl) 0)).turns
  | becomeFailed =>
    exact (@effects_world α false _ _ (p.world.leaveBootstrap_effects (.inr rfl) 0)).turns
  | subscribe => exact .single (.listen _)
  | receive i => exact .single (.listen _)
  | clock time =>
    simp only [take]
    split
    · case isTrue h => exact .single (.clock h)
    · exact .refl

theorem foldl_turns (p : Process α) (choices : List (Choice α)) :
    Turns p.scene (choices.foldl take p).scene := by
  induction choices generalizing p with
  | nil => exact .refl
  | cons c rest ih => exact (p.take_turns c).trans (ih (p.take c))

/-- **A run is a sequence of turns.** -/
theorem run_turns (closeTimeout : Duration) (choices : List (Choice α)) :
    Turns (start closeTimeout).scene (run closeTimeout choices).scene :=
  foldl_turns _ choices

theorem run_append_turns (closeTimeout : Duration) (choices more : List (Choice α)) :
    Turns (run closeTimeout choices).scene (run closeTimeout (choices ++ more)).scene := by
  unfold run
  rw [List.foldl_append]
  exact foldl_turns _ more

end Process

end EventIntake.Lifecycle
