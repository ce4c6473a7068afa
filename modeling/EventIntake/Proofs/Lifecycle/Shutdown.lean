import EventIntake.Proofs.Lifecycle.Held

/-!
# The shutdown of a process

Resources are handed over, a task begins the shutdown, and somebody waits for its report.  What
comes of it follows from the closes alone (`Session.shutdown_closes_in_order`): every resource is
closed, one after the other by stages and latest first, and each close takes as long as it takes, or
the timeout.
-/

namespace EventIntake.Lifecycle

variable {α : Type}

/-! ## Handing over -/

/-- A process that has just begun, but for the resources handed over to it. -/
structure Session.Holds (closeTimeout : Duration) (rs : List (Resource (Action α)))
    (s : Session α) : Prop where
  world : s.world.Holds closeTimeout rs
  now : s.world.now = 0
  threads : s.world.threads = []
  spawned : s.spawned = []

namespace Session

variable {closeTimeout : Duration} {rs : List (Resource (Action α))} {cause : Cause}
variable {s : Session α}

theorem holds_start (closeTimeout : Duration) :
    (start closeTimeout : Session α).Holds closeTimeout [] :=
  ⟨⟨rfl, rfl, rfl, rfl, rfl, rfl, rfl⟩, rfl, rfl, rfl⟩

theorem step_of_request {s' : Session α} {r r' : Waiting α} (h : r.step s = some (s', r')) :
    s.step r = some (s', r') := by
  rw [step, h]

theorem step_eq_none_of_threads {r : Waiting α} (h : s.world.threads = []) (hr : r.step s = none) :
    s.step r = none := by
  rw [step, hr, World.step, h]
  rfl

inductive Handing (closeTimeout : Duration) (rs : List (Resource (Action α)))
    (r : Resource (Action α)) : Session α → Waiting α → Prop
  | before {s : Session α} (h : s.Holds closeTimeout rs) :
      Handing closeTimeout rs r s (.work (.ofActions [.register r]))
  | after {s : Session α} (h : s.Holds closeTimeout (rs ++ [r])) :
      Handing closeTimeout rs r s (.work (.mk .none .nothing []))
  | answered {s : Session α} (h : s.Holds closeTimeout (rs ++ [r])) :
      Handing closeTimeout rs r s (.answered .done)

theorem Holds.step_register (h : s.Holds closeTimeout rs) (r : Resource (Action α)) :
    s.step (.work (.ofActions [.register r])) =
      some ({ s with world := (s.world.register r).1 }, .work (.mk .none .nothing [])) := by
  refine step_of_request ?_
  simp only [Waiting.step, Work.ofActions, Work.step, Action.begin,
    World.register_of_accepting h.world.accepting]

theorem Holds.concat (h : s.Holds closeTimeout rs) (r : Resource (Action α)) :
    Holds closeTimeout (rs ++ [r]) { s with world := (s.world.register r).1 } := by
  refine ⟨h.world.register r, ?_, ?_, h.spawned⟩
  · rw [World.register_of_accepting h.world.accepting]
    exact h.now
  · rw [World.register_of_accepting h.world.accepting]
    exact h.threads

theorem Handing.goes {r : Resource (Action α)} {a b : Session α × Waiting α} (h : Goes a b)
    (ha : Handing closeTimeout rs r a.1 a.2) : Handing closeTimeout rs r b.1 b.2 := by
  obtain ⟨s, q⟩ := a
  cases ha with
  | before hs =>
    have hb := h.eq_of_step (hs.step_register r)
    subst hb
    exact .after (hs.concat r)
  | after hs =>
    have hb := h.eq_of_step (step_of_request rfl)
    subst hb
    exact .answered hs
  | answered hs =>
    cases h with
    | step h =>
      rw [step_eq_none_of_threads hs.threads rfl] at h
      cases h
    | clock hr => exact absurd rfl (hr .done)

/-- **A hand-over before the shutdown is accepted at once.** -/
theorem Holds.register (h : s.Holds closeTimeout rs) (r : Resource (Action α)) :
    ∃ s', s.perform (.register r) = (s', .done) ∧ s'.Holds closeTimeout (rs ++ [r]) := by
  obtain ⟨s', reply, hperform, hs', -⟩ := perform_keeps (J := Handing closeTimeout rs r) s
    (.register r) (.before h) Handing.goes fun {s q} hq hsettled => by
      cases hq with
      | before hs =>
        rw [Settled, hs.step_register r] at hsettled
        cases hsettled.1
      | after hs =>
        rw [Settled, step_of_request rfl] at hsettled
        cases hsettled.1
      | answered hs => exact ⟨_, rfl⟩
  cases hs' with
  | answered hs => exact ⟨s', hperform, hs⟩

theorem Holds.serve (h : s.Holds closeTimeout rs) (more : List (Resource (Action α))) :
    (s.serve (more.map .register)).Holds closeTimeout (rs ++ more) := by
  induction more generalizing s rs with
  | nil =>
    rw [List.append_nil]
    exact h
  | cons r more ih =>
    obtain ⟨s', hperform, hs'⟩ := h.register r
    have hrest := ih hs'
    rw [List.append_assoc] at hrest
    change ((s.perform (.register r)).1.serve (more.map .register)).Holds _ _
    rw [hperform]
    exact hrest

/-! ## The shutdown -/

/-- The task in thread `0` has begun the shutdown, and the pass is thread `1`. -/
structure Asked (closeTimeout : Duration) (rs : List (Resource (Action α))) (cause : Cause)
    (t₀ : Nat) (w : World α) : Prop where
  passing : w.Passing ⟨closeTimeout, false⟩ rs.length cause t₀ (closingOrder (entriesOf rs)) 1
  task : w.threads[0]? = some (.trigger cause true) ∨ w.threads[0]? = some .finished

variable {t₀ : Nat} {w w' : World α}

theorem Asked.step (h : Asked closeTimeout rs cause t₀ w) (hstep : w.step = some w') :
    Asked closeTimeout rs cause t₀ w' := by
  obtain ⟨j, -, hj⟩ := List.exists_of_findSome?_eq_some hstep
  refine ⟨h.passing.stepThread hj, ?_⟩
  by_cases hzero : j = 0
  · subst hzero
    obtain ⟨t, w₁, t', ht, hthread, rfl⟩ := World.stepThread_steps hj
    rcases h.task with htask | htask
    · obtain rfl := Option.some.inj (htask.symm.trans ht)
      cases Thread.step_steps hthread with
      | told hr => exact .inr (getElem?_set_self_of ht _)
    · obtain rfl := Option.some.inj (htask.symm.trans ht)
      cases hthread
  · rcases h.task with ht | ht
    · exact .inl (World.stepThread_getElem? hj hzero ht)
    · exact .inr (World.stepThread_getElem? hj hzero ht)

theorem World.trigger_threads (hacc : w.coordinator.accepting = true) (cause : Cause) :
    ∃ p, (w.trigger cause).threads = w.threads ++ [.pass p] := by
  simp [World.trigger, World.note, Coordinator.drain, hacc, World.spawn]

/-- A session without threads, whose world holds these resources. -/
structure Ready (closeTimeout : Duration) (state : State) (rs : List (Resource (Action α)))
    (s : Session α) : Prop where
  world : s.world.Ready closeTimeout state rs
  threads : s.world.threads = []
  spawned : s.spawned = []

variable {state : State}

theorem Holds.ready (h : s.Holds closeTimeout rs) :
    s.Ready closeTimeout s.world.coordinator.state rs :=
  ⟨h.world.ready, h.threads, h.spawned⟩

inductive Asking (closeTimeout : Duration) (rs : List (Resource (Action α))) (cause : Cause)
    (t₀ : Nat) : Session α → Waiting α → Prop
  | before {s : Session α} {state : State} (h : s.Ready closeTimeout state rs)
      (hnow : s.now = t₀) :
      Asking closeTimeout rs cause t₀
        { s with world := s.world.spawn (.trigger cause false), spawned := s.spawned ++ [some 0] }
        (.answered (.spawned 0))
  | asked {s : Session α} (h : Asked closeTimeout rs cause t₀ s.world)
      (hspawned : s.spawned = [some 0]) :
      Asking closeTimeout rs cause t₀ s (.answered (.spawned 0))

theorem Ready.step_spawn (h : s.Ready closeTimeout state rs) (cause : Cause) :
    ∃ w', (s.world.spawn (.trigger cause false)).step = some w' ∧
      Asked closeTimeout rs cause s.now w' := by
  generalize hw : s.world.spawn (.trigger cause false) = w
  have hthreads : w.threads = [.trigger cause false] := by
    rw [← hw, World.spawn, h.threads]
    rfl
  have hheld : w.Ready closeTimeout state rs :=
    h.world.of_same (by rw [← hw]; rfl) (by rw [← hw]; rfl)
  have hpassing := hheld.trigger (by rw [hthreads]; simp [Thread.causes]) cause
  have hnow : w.now = s.now := by rw [← hw]; rfl
  rw [hnow, hthreads] at hpassing
  obtain ⟨p, hp⟩ := World.trigger_threads hheld.accepting cause
  have hfirst : (w.trigger cause).threads[0]? = some (.trigger cause false) := by
    rw [hp, hthreads]
    rfl
  refine ⟨{ w.trigger cause with threads := (w.trigger cause).threads.set 0 (.trigger cause true) },
    ?_, ?_, .inl (getElem?_set_self_of hfirst _)⟩
  · simp [World.step, World.stepThread, hthreads, Thread.step]
  · exact hpassing.set Nat.zero_ne_one rfl

theorem Asking.goes {a b : Session α × Waiting α} (h : Goes a b)
    (ha : Asking closeTimeout rs cause t₀ a.1 a.2) : Asking closeTimeout rs cause t₀ b.1 b.2 := by
  obtain ⟨s, q⟩ := a
  cases ha with
  | @before s state hs hnow =>
    obtain ⟨w', hstep, hasked⟩ := hs.step_spawn cause
    rw [hnow] at hasked
    cases h with
    | step h =>
      simp only [Session.step, Waiting.step, hstep, Option.map_some] at h
      cases h
      refine .asked hasked ?_
      simp [hs.spawned]
    | clock hr => exact absurd rfl (hr _)
  | asked hs hspawned =>
    cases h with
    | step h =>
      simp only [Session.step, Waiting.step] at h
      obtain ⟨w', hstep, hsame⟩ := Option.map_eq_some_iff.mp h
      cases hsame
      exact .asked (hs.step hstep) hspawned
    | clock hr => exact absurd rfl (hr _)

theorem Ready.spawnTrigger (h : s.Ready closeTimeout state rs) (cause : Cause) :
    ∃ s', s.perform (.spawnTrigger cause) = (s', .spawned 0) ∧
      Asked closeTimeout rs cause s.now s'.world ∧ s'.spawned = [some 0] := by
  have hbegin : s.begin (.spawnTrigger cause) =
      ({ s with world := s.world.spawn (.trigger cause false), spawned := s.spawned ++ [some 0] },
        .answered (.spawned 0)) := by
    simp [Session.begin, h.threads, h.spawned]
  obtain ⟨s', reply, hperform, hs', hsettled⟩ := perform_keeps
    (J := Asking closeTimeout rs cause s.now) s (.spawnTrigger cause)
    (by rw [hbegin]; exact .before h rfl) Asking.goes fun {s q} hq _ => by
      cases hq with
      | before hs hnow => exact ⟨_, rfl⟩
      | asked hs hspawned => exact ⟨_, rfl⟩
  cases hs' with
  | @before s state hs hnow =>
    obtain ⟨w', hstep, -⟩ := hs.step_spawn cause
    have hnone := hsettled.1
    simp only [Session.step, Waiting.step, hstep] at hnone
    cases hnone
  | asked hs hspawned => exact ⟨s', hperform, hs, hspawned⟩

theorem Holds.spawnTrigger (h : s.Holds closeTimeout rs) (cause : Cause) :
    ∃ s', s.perform (.spawnTrigger cause) = (s', .spawned 0) ∧
      Asked closeTimeout rs cause 0 s'.world ∧ s'.spawned = [some 0] := by
  have hspawn := h.ready.spawnTrigger cause
  rw [show s.now = 0 from h.now] at hspawn
  exact hspawn

inductive Joining (closeTimeout : Duration) (rs : List (Resource (Action α))) (cause : Cause)
    (t₀ : Nat) : Session α → Waiting α → Prop
  | waiting {s : Session α} (h : Asked closeTimeout rs cause t₀ s.world) :
      Joining closeTimeout rs cause t₀ s (.thread 0)
  | answered {s : Session α} {r : Report} (h : Asked closeTimeout rs cause t₀ s.world)
      (hr : s.world.coordinator.report = some r)
      (hfinished : s.world.threads[1]? = some .finished) :
      Joining closeTimeout rs cause t₀ s (.answered (.report r))

theorem Asked.report_eq_none (h : Asked closeTimeout rs cause t₀ s.world)
    (hstep : s.step (.thread 0) = none) :
    s.world.step = none ∧ s.world.coordinator.report = none := by
  obtain ⟨hrequest, hworld⟩ := step_eq_none hstep
  refine ⟨hworld, ?_⟩
  cases hreport : s.world.coordinator.report with
  | none => rfl
  | some r =>
    rcases h.task with ht | ht
    · have hthread := World.stepThread_eq_none hworld ht
      simp [Thread.step, hreport] at hthread
    · simp [Waiting.step, ht, hreport] at hrequest

theorem Joining.goes {a b : Session α × Waiting α} (h : Goes a b)
    (ha : Joining closeTimeout rs cause t₀ a.1 a.2) : Joining closeTimeout rs cause t₀ b.1 b.2 := by
  obtain ⟨s, q⟩ := a
  cases ha with
  | waiting hs =>
    cases h with
    | step h =>
      unfold Session.step at h
      split at h
      · case h_1 next hnext =>
        cases h
        simp only [Waiting.step] at hnext
        split at hnext
        · case h_1 r hthread hreport =>
          cases hnext
          exact .answered hs hreport (hs.passing.finished_of_report hreport)
        · cases hnext
      · obtain ⟨w', hstep, hsame⟩ := Option.map_eq_some_iff.mp h
        cases hsame
        exact .waiting (hs.step hstep)
    | @clock s r t hr hstep hdue =>
      obtain ⟨hworld, hreport⟩ := hs.report_eq_none hstep
      have hnext : s.world.nextDue = some t := hdue
      have hpassing := hs.passing.at hworld hreport (Nat.le_of_lt (World.lt_nextDue hnext))
        (nextDue_le hdue).2
      exact .waiting ⟨hpassing, hs.task⟩
  | answered hs hr hfinished =>
    cases h with
    | step h =>
      simp only [Session.step, Waiting.step] at h
      obtain ⟨w', hstep, hsame⟩ := Option.map_eq_some_iff.mp h
      cases hsame
      have hs' := hs.step hstep
      have hfinished' := World.step_finished hstep hfinished
      obtain ⟨hreport, -⟩ := hs.passing.of_finished hfinished
      obtain ⟨hreport', -⟩ := hs'.passing.of_finished hfinished'
      rw [hreport] at hr
      exact .answered hs' (hreport'.trans hr) hfinished'
    | clock hne => exact absurd rfl (hne _)

theorem Asked.join (h : Asked closeTimeout rs cause t₀ s.world) (hspawned : s.spawned = [some 0]) :
    ∃ s' r, s.perform (.join 0) = (s', .report r) ∧ Asked closeTimeout rs cause t₀ s'.world ∧
      s'.world.coordinator.report = some r ∧ s'.world.threads[1]? = some .finished := by
  have hbegin : s.begin (.join 0) = ({ s with spawned := [none] }, .thread 0) := by
    simp [Session.begin, hspawned]
  obtain ⟨s', reply, hperform, hs', -⟩ := perform_keeps (J := Joining closeTimeout rs cause t₀) s
    (.join 0) (by rw [hbegin]; exact .waiting h) Joining.goes fun {s q} hq hsettled => by
      cases hq with
      | waiting hs =>
        obtain ⟨hworld, hreport⟩ := hs.report_eq_none hsettled.1
        obtain ⟨d, hd⟩ := hs.passing.nextDue hworld hreport
        rcases hsettled.2 with ⟨reply, hreply⟩ | hnone
        · exact ⟨reply, hreply⟩
        · have hdue : Session.nextDue s (.thread 0) = some d := hd
          rw [hnone] at hdue
          cases hdue
      | answered hs => exact ⟨_, rfl⟩
  cases hs' with
  | answered hs hr hfinished => exact ⟨s', _, hperform, hs, hr, hfinished⟩

/-- A shutdown that is waited for closes all that is held. -/
theorem Ready.shutDown (h : s.Ready closeTimeout state rs) (cause : Cause) :
    ∃ s', (s.perform (.spawnTrigger cause)).1.perform (.join 0) = (s', .report
        ⟨cause, (closingOrder (entriesOf rs)).map (·.resource.name),
          (closingOrder (entriesOf rs)).filterMap (·.resource.failure? ⟨closeTimeout, false⟩)⟩) ∧
      s'.world.coordinator.state = .stopped := by
  obtain ⟨s₁, hperform₁, hasked, hspawned⟩ := h.spawnTrigger cause
  obtain ⟨s', r, hperform, hasked', hr, hfinished⟩ := hasked.join hspawned
  obtain ⟨hreport, hstate, -⟩ := hasked'.passing.of_finished hfinished
  rw [hreport, Option.some.injEq] at hr
  rw [hperform₁, hr]
  exact ⟨s', hperform, hstate⟩

/-- **The pass closes everything, one after the other, and reports what did not close.**  The
resources `rs` are handed over, a task begins the shutdown, and somebody waits for it. -/
theorem shutdown_closes_in_order (closeTimeout : Duration) (rs : List (Resource (Action α)))
    (cause : Cause) :
    let g : Regime := ⟨closeTimeout, false⟩
    let s := (start closeTimeout).serve (rs.map .register ++ [.spawnTrigger cause])
    ∃ (order : List (Entry α)) (s' : Session α),
      order.Perm (entriesOf rs) ∧ order.Pairwise Entry.ClosesBefore ∧
      s.perform (.join 0) = (s', .report ⟨cause, order.map (·.resource.name),
        order.filterMap (·.resource.failure? g)⟩) ∧
      (order.filterMap (·.resource.failure? g) = [] ↔
        ∀ r ∈ rs, ∃ v, (resourceCourse g r).2 = some (.ok v)) ∧
      s'.world.coordinator.state = .stopped ∧ s'.now = closeTime g order ∧
      (closeTime g order, Note.state .stopped) ∈ s'.world.notes ∧
      s'.world.begun rs.length = begins g 0 order ∧ endings g 0 order ⊆ s'.world.history := by
  intro g s
  have hheld := (holds_start (α := α) closeTimeout).serve rs
  rw [List.nil_append] at hheld
  obtain ⟨s₁, hperform₁, hasked, hspawned⟩ := hheld.spawnTrigger cause
  have hs : s = s₁ := by
    have happend : s = (((start closeTimeout).serve (rs.map .register)).perform
      (.spawnTrigger cause)).1 := List.foldl_append
    rw [happend, hperform₁]
  obtain ⟨s', r, hperform, hasked', hr, hfinished⟩ := hasked.join hspawned
  obtain ⟨hreport, hstate, hnow, hstopped, hbegun, hended⟩ := hasked'.passing.of_finished hfinished
  rw [Nat.zero_add] at hnow hstopped
  refine ⟨closingOrder (entriesOf rs), s', closingOrder_perm _,
    closingOrder_pairwise (entriesOf_pairwise rs), ?_, ?_, hstate, hnow, hstopped, hbegun, hended⟩
  · rw [hs, hperform]
    rw [hreport, Option.some.injEq] at hr
    rw [hr]
  · rw [List.filterMap_eq_nil_iff]
    simp only [Resource.failure?_eq_none_iff, (closingOrder_perm _).mem_iff]
    constructor
    · intro h r hr
      rw [← entriesOf_resources rs] at hr
      obtain ⟨e, he, rfl⟩ := List.mem_map.mp hr
      exact h e he
    · intro h e he
      exact h e.resource (entriesOf_resources rs ▸ List.mem_map_of_mem he)

end Session

end EventIntake.Lifecycle
