import EventIntake.Proofs.Lifecycle.Deployments
import EventIntake.Proofs.Lifecycle.Phases
import EventIntake.Proofs.Lifecycle.Serving

/-!
# One phase at a time

A process may also be asked for its phases one by one, with other requests in between.  A phase that
is in time leaves it ready for the next one, and holding besides what it held just what the phase
launched.  Any other phase is the last: all of it is closed again before the request comes back
(`Session.Starting.phase`).
-/

namespace EventIntake.Lifecycle

variable {α : Type}

/-- The workers that the phase deploys and that come up. -/
def Phase.deployed (g : Regime) (p : Phase α) : List (Resource (Action α)) :=
  deployedBy g p.limit.millis p.body

/-- The workers that the phase deploys and that come up, each with how long that takes. -/
def Phase.arrivals (g : Regime) (p : Phase α) : List (Nat × Resource (Action α)) :=
  arrivalsBy g p.limit.millis p.body

/-- What comes up, in an order in which it does so until `now`. -/
structure InOrder (now : Nat) (up : List (Nat × Resource (Action α))) : Prop where
  sorted : up.Pairwise fun x y => x.1 ≤ y.1
  past : ∀ x ∈ up, x.1 ≤ now

/-- What the phase launches: workers come up as they are ready. -/
def Phase.Launches (g : Regime) (p : Phase α) (launched : List (Resource (Action α))) : Prop :=
  ∃ up : List (Nat × Resource (Action α)), launched = p.resources ++ up.map Prod.snd ∧
    up.Perm (p.arrivals g) ∧ up.Pairwise fun x y => x.1 ≤ y.1

/-- Whether the body is plain, or a deployment whose starts only take time, fail or hang. -/
def Phase.IsCalm (p : Phase α) : Prop :=
  (∀ a ∈ p.body, a.isPlain) ∨ ∃ deadline workers, p.body = [.deploy deadline workers] ∧
    ∀ x ∈ workers, ∀ a ∈ x.1, a.isTimed

variable {closeTimeout : Duration} {rs : List (Resource (Action α))} {p : Phase α} {start : Nat}
variable {due : Nat} {job : Work α} {w w' : World α}

theorem Phase.failure_phase (g : Regime) (p : Phase α) : (p.failure g).phase = p.name := by
  unfold Phase.failure
  split <;> rfl

theorem Phase.IsCalm.at (h : p.IsCalm) (now : Nat) : (Work.ofActions p.body).Calm now := by
  rcases h with hplain | ⟨deadline, workers, hbody, htimed⟩
  · exact .plain (.running _ _ hplain)
  · rw [hbody]
    exact .deploying (.before _ deadline workers htimed)

/-! ## What comes up in order -/

theorem InOrder.nil (now : Nat) : InOrder now ([] : List (Nat × Resource (Action α))) :=
  ⟨.nil, List.forall_mem_nil _⟩

theorem InOrder.mono {now t : Nat} {up : List (Nat × Resource (Action α))} (h : InOrder now up)
    (hnow : now ≤ t) : InOrder t up :=
  ⟨h.sorted, fun x hx => Nat.le_trans (h.past x hx) hnow⟩

/-- What comes up now does so after all that has come up before. -/
theorem InOrder.concat {now : Nat} {up : List (Nat × Resource (Action α))} (h : InOrder now up)
    (r : Resource (Action α)) : InOrder now (up ++ [(now, r)]) := by
  constructor
  · refine List.pairwise_append.mpr ⟨h.sorted, List.pairwise_singleton _ _, fun x hx y hy => ?_⟩
    rw [List.mem_singleton.mp hy]
    exact h.past x hx
  · intro x hx
    rcases List.mem_append.mp hx with hx | hx
    · exact h.past x hx
    · rw [List.mem_singleton.mp hx]

/-- What came up after `start` came up in the order of how long it took. -/
theorem InOrder.since {now start : Nat} {up arrivals : List (Nat × Resource (Action α))}
    (h : InOrder now up) (hperm : up.Perm (arrivals.map (later start))) :
    ∃ taken : List (Nat × Resource (Action α)), taken.map Prod.snd = up.map Prod.snd ∧
      taken.Perm arrivals ∧ taken.Pairwise fun x y => x.1 ≤ y.1 := by
  refine ⟨up.map fun x => (x.1 - start, x.2), ?_, ?_, ?_⟩
  · rw [List.map_map]
    rfl
  · have hback : (arrivals.map (later start)).map (fun x => (x.1 - start, x.2)) = arrivals := by
      rw [List.map_map]
      refine (List.map_congr_left fun x _ => ?_).trans (List.map_id _)
      exact Prod.ext (Nat.add_sub_cancel_left start x.1) rfl
    exact hback ▸ hperm.map _
  · exact List.pairwise_map.mpr (h.sorted.imp fun hle => Nat.sub_le_sub_right hle start)

/-! ## What a phase may launch -/

/-- The resources that the phase launches at the most. -/
def Phase.mentions (p : Phase α) : List (Resource (Action α)) := p.body.flatMap Action.resources

variable {g : Regime} {launched : List (Resource (Action α))}

/-- A body that deploys nothing launches in its order. -/
theorem Phase.Launches.sublist (h : p.Launches g launched) (hplain : ∀ a ∈ p.body, a.isPlain) :
    launched.Sublist p.mentions := by
  obtain ⟨up, rfl, hup, -⟩ := h
  rw [Phase.arrivals, arrivalsBy_of_plain hplain] at hup
  rw [hup.eq_nil, List.map_nil, List.append_nil]
  exact handedOver_sublist _ _

theorem Phase.Launches.perm (h : p.Launches g launched) :
    launched.Perm (p.resources ++ p.deployed g) := by
  obtain ⟨up, rfl, hup, -⟩ := h
  refine List.Perm.append_left _ ?_
  rw [Phase.deployed, ← arrivalsBy_snd]
  exact hup.map Prod.snd

theorem Phase.Launches.subperm (h : p.Launches g launched) (hcalm : p.IsCalm) :
    launched.Subperm p.mentions := by
  rcases hcalm with hplain | ⟨deadline, workers, hbody, -⟩
  · exact (h.sublist hplain).subperm
  · have hlaunched := h.perm
    rw [Phase.resources, Phase.deployed, hbody] at hlaunched
    have hmentions : [Action.deploy deadline workers].flatMap Action.resources =
        workers.map Prod.snd := List.append_nil _
    rw [Phase.mentions, hbody, hmentions]
    exact hlaunched.subperm.trans (cameUp_sublist g _ workers).subperm

/-- **A phase that is in time launches all that it mentions.** -/
theorem Phase.Launches.perm_of_inTime (h : p.Launches g launched) (hacc : g.accepting = true)
    (hcalm : p.IsCalm) (hin : p.InTime g) : launched.Perm p.mentions := by
  obtain ⟨d, v, hcourse, hle⟩ := hin
  have hlaunched := h.perm
  rcases hcalm with hplain | ⟨deadline, workers, hbody, -⟩
  · rw [Phase.deployed, deployedBy_of_plain hplain, List.append_nil, Phase.resources,
      handedOver_of_ok hacc hplain hcourse hle] at hlaunched
    exact hlaunched
  · rw [hbody, actionsCourse] at hcourse
    have hmentions : [Action.deploy deadline workers].flatMap Action.resources =
        workers.map Prod.snd := List.append_nil _
    rw [Phase.mentions, hbody, hmentions]
    rw [Phase.resources, Phase.deployed, hbody] at hlaunched
    have hfirst : (Action.deploy deadline workers).course g .nothing = some (d, .ok v) := by
      cases hdeploy : (Action.deploy deadline workers).course g .nothing with
      | none =>
        rw [hdeploy] at hcourse
        cases hcourse
      | some x =>
        obtain ⟨t, e | value⟩ := x
        · rw [hdeploy] at hcourse
          cases hcourse
        · rw [hdeploy, Course.andThen, actionsCourse] at hcourse
          exact hcourse
    refine hlaunched.trans (List.Perm.of_eq ?_)
    exact cameUp_of_ok hacc hfirst hle

/-- What phases launch, one after the other. -/
inductive LaunchedBy (g : Regime) : List (Phase α) → List (Resource (Action α)) → Prop
  | nil : LaunchedBy g [] []
  | cons {p : Phase α} {rest : List (Phase α)} {launched later : List (Resource (Action α))}
      (h : p.Launches g launched) (hrest : LaunchedBy g rest later) :
      LaunchedBy g (p :: rest) (launched ++ later)

namespace LaunchedBy

variable {phases : List (Phase α)}

theorem perm (h : LaunchedBy g phases launched) :
    launched.Perm (phases.flatMap fun p => p.resources ++ p.deployed g) := by
  induction h with
  | nil => exact .nil
  | cons h _ ih =>
    rw [List.flatMap_cons]
    exact h.perm.append ih

theorem subperm (h : LaunchedBy g phases launched) (hcalm : ∀ p ∈ phases, p.IsCalm) :
    launched.Subperm (phases.flatMap Phase.mentions) := by
  induction h with
  | nil => exact .refl _
  | cons h _ ih =>
    obtain ⟨hfirst, hrest⟩ := List.forall_mem_cons.mp hcalm
    rw [List.flatMap_cons]
    exact (h.subperm hfirst).append (ih hrest)

theorem perm_of_inTime (h : LaunchedBy g phases launched) (hacc : g.accepting = true)
    (hcalm : ∀ p ∈ phases, p.IsCalm) (hin : ∀ p ∈ phases, p.InTime g) :
    launched.Perm (phases.flatMap Phase.mentions) := by
  induction h with
  | nil => exact .nil
  | cons h _ ih =>
    obtain ⟨hfirst, hrest⟩ := List.forall_mem_cons.mp hcalm
    obtain ⟨hin, hlater⟩ := List.forall_mem_cons.mp hin
    rw [List.flatMap_cons]
    exact (h.perm_of_inTime hacc hfirst hin).append (ih hrest hlater)

/-- What holds between any two that are mentioned one after the other holds between those that are
launched, if the workers of one deployment do not mind their order. -/
theorem pairwise {R : Resource (Action α) → Resource (Action α) → Prop}
    (h : LaunchedBy g phases launched) (hcalm : ∀ p ∈ phases, p.IsCalm)
    (hR : (phases.flatMap Phase.mentions).Pairwise R)
    (hany : ∀ p ∈ phases, (∀ a ∈ p.body, a.isPlain) ∨
      ∀ r ∈ p.mentions, ∀ r' ∈ p.mentions, R r r') : launched.Pairwise R := by
  induction h with
  | nil => exact .nil
  | cons h hrest ih =>
    obtain ⟨hfirst, hcalm⟩ := List.forall_mem_cons.mp hcalm
    obtain ⟨hplain, hany⟩ := List.forall_mem_cons.mp hany
    rw [List.flatMap_cons, List.pairwise_append] at hR
    obtain ⟨hwithin, hlater, hacross⟩ := hR
    refine List.pairwise_append.mpr ⟨?_, ih hcalm hlater hany, fun r hr r' hr' => ?_⟩
    · rcases hplain with hplain | hall
      · exact hwithin.sublist (h.sublist hplain)
      · exact List.pairwise_of_forall_mem_list fun r hr r' hr' =>
          hall r ((h.subperm hfirst).subset hr) r' ((h.subperm hfirst).subset hr')
    · exact hacross r ((h.subperm hfirst).subset hr) r' ((hrest.subperm hcalm).subset hr')

end LaunchedBy

/-! ## Which phases have begun -/

def Note.begun? : Note → Option String
  | .phaseBegun name => some name
  | _ => none

def World.begunPhases (w : World α) : List String := w.notes.filterMap (·.2.begun?)

theorem World.begunPhases_of_phases (h : w'.phases = w.phases) :
    w'.begunPhases = w.begunPhases := by
  have hpick : ∀ v : World α, v.begunPhases = v.phases.filterMap (·.2.begun?) := by
    intro v
    rw [World.begunPhases, World.phases, List.filterMap_filter]
    refine List.filterMap_congr fun x _ => ?_
    cases x.2 <;> rfl
  rw [hpick, hpick, h]

theorem Effect.begunPhases {a b : Scene α} (h : Effect false a b) :
    b.1.begunPhases = a.1.begunPhases := by
  cases h with
  | quiet h hnotes => rw [World.begunPhases, hnotes rfl, World.begunPhases]
  | giveUp l => simp [World.begunPhases, List.filterMap_append, List.filterMap_map, Note.begun?]
  | _ => simp [World.begunPhases, List.filterMap_append, Note.begun?]

theorem Effects.begunPhases {a b : Scene α} (h : Effects false a b) :
    b.1.begunPhases = a.1.begunPhases := by
  induction h with
  | refl => rfl
  | tail _ hstep ih => exact hstep.begunPhases.trans ih

theorem World.step_begunPhases (h : w.step = some w') : w'.begunPhases = w.begunPhases := by
  obtain ⟨j, -, hj⟩ := List.exists_of_findSome?_eq_some h
  obtain ⟨t, w₁, t', ht, hthread, rfl⟩ := World.stepThread_steps hj
  change w₁.begunPhases = w.begunPhases
  cases Thread.step_move hthread with
  | work heffects => exact heffects.begunPhases
  | take => rfl
  | stop => simp [World.stop, World.note, World.begunPhases, Note.begun?]

theorem Bootstrap.step_begunPhases {b : Bootstrap α} {next : Bootstrap α ⊕ Bootstrap.Result α}
    (h : b.step w = some (w', next)) (hb : b.waiting = []) : w'.begunPhases = w.begunPhases := by
  cases Bootstrap.step_steps h with
  | finish hstand hwaiting => rfl
  | refuse hstand hwaiting haborted => rfl
  | begin hstand hwaiting haborted => simp [hb] at hwaiting
  | work hstand hjob => exact (Work.step_effects hjob).begunPhases
  | done hstand hjob =>
    refine Eq.trans ?_ (Work.step_effects hjob).begunPhases
    simp [World.note, World.begunPhases, Note.begun?]
  | fail hstand hjob =>
    exact (Bootstrap.abort_effects _ b _).begunPhases.trans (Work.step_effects hjob).begunPhases
  | timeOut hstand hjob hdue =>
    exact (Bootstrap.abort_effects _ b _).begunPhases.trans (w.giveUp_effects _).begunPhases
  | @tornDown e r hstand hr =>
    have htold : Effects false (w, 0) (w.note (.returned r), 0) := .single (.tell hr)
    exact (World.foldl_error_effects _ r.errors _ _).begunPhases.trans htold.begunPhases

/-! ## Within the phase -/

/-- The body of `p` is under way in a world that held `rs` when it began at `start`. -/
structure World.Launching (closeTimeout : Duration) (rs : List (Resource (Action α))) (p : Phase α)
    (start due : Nat) (job : Work α) (w : World α) : Prop where
  launched : ∃ (held : List (Resource (Action α))) (up : List (Nat × Resource (Action α))),
    w.Ready closeTimeout .bootstrapping held ∧
    held ++ job.handsOver w.now due = rs ++ p.resources ++ up.map Prod.snd ∧
    (up ++ job.up ⟨closeTimeout, true⟩ w.now due).Perm
      ((p.arrivals ⟨closeTimeout, true⟩).map (later start)) ∧ InOrder w.now up
  threads : w.threads = []
  calm : job.Calm w.now
  now : w.now ≤ due
  ends : (job.ends ⟨closeTimeout, true⟩ w.now).cutOff due =
    (start + p.time ⟨closeTimeout, true⟩, (p.course ⟨closeTimeout, true⟩).2)

/-- The body of `p` has come to `result`, or was cut off. -/
structure World.Launched (closeTimeout : Duration) (rs : List (Resource (Action α))) (p : Phase α)
    (start : Nat) (result : Option (Except String (Value α))) (w : World α) : Prop where
  launched : ∃ launched, p.Launches ⟨closeTimeout, true⟩ launched ∧
    w.Ready closeTimeout .bootstrapping (rs ++ launched)
  threads : w.threads = []
  now : w.now = start + p.time ⟨closeTimeout, true⟩
  result : (p.course ⟨closeTimeout, true⟩).2 = result

theorem World.Ready.launch (h : w.Ready closeTimeout .bootstrapping rs) (hthreads : w.threads = [])
    (hcalm : p.IsCalm) : (w.note (.phaseBegun p.name)).Launching closeTimeout rs p w.now
      (w.dueIn p.limit) (.ofActions p.body) := by
  have hwait : w.dueIn p.limit - w.now = p.limit.millis := Nat.add_sub_cancel_left _ _
  refine ⟨⟨rs, [], h.of_same rfl rfl, ?_, ?_, .nil _⟩, hthreads, hcalm.at w.now,
    Nat.le_add_right _ _, ?_⟩
  · change rs ++ handedOver (w.dueIn p.limit - w.now) p.body = _
    rw [hwait, List.map_nil, List.append_nil, Phase.resources]
  · change ((arrivalsBy _ (w.dueIn p.limit - w.now) p.body).map (later w.now)).Perm _
    rw [hwait, Phase.arrivals]
  · rw [Work.ofActions, Work.ends_none]
    exact Course.cutOff_delay _ _ _

/-- When the body has nothing more to hand over, all of what it launches is held. -/
theorem World.Launching.launches (h : w.Launching closeTimeout rs p start due job)
    (hhands : job.handsOver w.now due = []) (hup : job.up ⟨closeTimeout, true⟩ w.now due = []) :
    ∃ launched, p.Launches ⟨closeTimeout, true⟩ launched ∧
      w.Ready closeTimeout .bootstrapping (rs ++ launched) := by
  obtain ⟨held, up, hready, hheld, hperm, horder⟩ := h.launched
  rw [hhands, List.append_nil, List.append_assoc] at hheld
  rw [hup, List.append_nil] at hperm
  obtain ⟨taken, hsame, harrivals, hsorted⟩ := horder.since hperm
  rw [← hsame] at hheld
  exact ⟨p.resources ++ taken.map Prod.snd, ⟨taken, rfl, harrivals, hsorted⟩, hheld ▸ hready⟩

/-- **A step of the body goes on with it or ends it, as its course says.** -/
theorem World.Launching.step (h : w.Launching closeTimeout rs p start due job) {next : Stepped α}
    (hstep : job.step w = some (w', next)) :
    (∃ job', next = .inl job' ∧ w'.Launching closeTimeout rs p start due job') ∨
      ∃ result, next = .inr result ∧ w'.Launched closeTimeout rs p start (some result) := by
  obtain ⟨held, up, hready, hheld, hperm, horder⟩ := h.launched
  have hends := Work.step_ends hready.under hstep
  have hcourse := h.ends
  cases h.calm.step hready.under rfl h.now hstep with
  | @on job' hcalm hhands hup =>
    refine .inl ⟨job', rfl, ⟨held, up, hready, hhands ▸ hheld, hup ▸ hperm, horder⟩, h.threads,
      hcalm, h.now, ?_⟩
    rw [← hcourse, ← hends]
    rfl
  | @created job' number hcalm hhands hup =>
    refine .inl ⟨job', rfl, ⟨held, up, hready.record rfl, hhands ▸ hheld, hup ▸ hperm, horder⟩,
      h.threads, hcalm, h.now, ?_⟩
    rw [← hcourse, ← hends]
    rfl
  | @handed job' r hcalm hhands hup =>
    have hworld := World.register_of_accepting hready.accepting r
    have hnow : (w.register r).1.now = w.now := by rw [hworld]
    refine .inl ⟨job', rfl, ⟨held ++ [r], up, hready.register r, ?_, ?_, hnow ▸ horder⟩, ?_,
      hnow ▸ hcalm, hnow ▸ h.now, ?_⟩
    · rw [hnow, ← hheld, hhands, List.append_assoc, List.singleton_append]
    · rw [hnow, hup]
      exact hperm
    · rw [hworld]
      exact h.threads
    · rw [hnow, ← hcourse, ← hends]
      rfl
  | @raised job' r hcalm hnone hup =>
    have hworld := World.register_of_accepting hready.accepting r
    have hnow : (w.register r).1.now = w.now := by rw [hworld]
    refine .inl ⟨job', rfl, ⟨held ++ [r], up ++ [(w.now, r)], hready.register r, ?_, ?_,
      hnow ▸ horder.concat r⟩, ?_, hnow ▸ hcalm, hnow ▸ h.now, ?_⟩
    · rw [hnone.1, List.append_nil] at hheld
      rw [hnow, hnone.2, hheld, List.append_nil, List.append_assoc, List.map_append]
      rfl
    · rw [hnow, List.append_assoc]
      exact (hup.symm.append_left up).trans hperm
    · rw [hworld]
      exact h.threads
    · rw [hnow, ← hcourse, ← hends]
      rfl
  | @done result hhands hup =>
    rw [← hends, Stepped.ends, Course.cutOff, if_pos h.now] at hcourse
    obtain ⟨hnow, hresult⟩ := Prod.mk.inj hcourse
    exact .inr ⟨result, rfl, h.launches hhands hup, h.threads, hnow, hresult.symm⟩

theorem World.Launching.cutOff (h : w.Launching closeTimeout rs p start due job)
    (hstep : job.step w = none) (hdue : due ≤ w.now) :
    w.Launched closeTimeout rs p start none := by
  have hcourse := Work.cutOff_of_due (g := ⟨closeTimeout, true⟩) hstep hdue
  rw [Nat.max_eq_right h.now, h.ends] at hcourse
  obtain ⟨htime, hresult⟩ := Prod.mk.inj hcourse
  obtain ⟨hhands, hup⟩ := h.calm.eq_nil (g := ⟨closeTimeout, true⟩) hstep hdue
  exact ⟨h.launches hhands hup, h.threads, htime.symm, hresult⟩

theorem World.Launching.at (h : w.Launching closeTimeout rs p start due job)
    (hstep : job.step w = none) {t : Nat} (hnow : w.now ≤ t) (hlimit : t ≤ due)
    (hdue : ∀ d, job.nextDue w.now = some d → t ≤ d) :
    (w.at t).Launching closeTimeout rs p start due job := by
  obtain ⟨held, up, hready, hheld, hperm, horder⟩ := h.launched
  obtain ⟨hcalm, hhands, hup⟩ : job.Calm t ∧ job.handsOver t due = job.handsOver w.now due ∧
      job.up ⟨closeTimeout, true⟩ t due = job.up ⟨closeTimeout, true⟩ w.now due :=
    h.calm.at hstep hnow hdue
  refine ⟨⟨held, up, hready.of_same rfl rfl, ?_, ?_, horder.mono hnow⟩, h.threads, hcalm, hlimit,
    ?_⟩
  · change held ++ job.handsOver t due = _
    rw [hhands, hheld]
  · change (up ++ job.up _ t due).Perm _
    rw [hup]
    exact hperm
  · change (job.ends _ t).cutOff due = _
    rw [Work.ends_at hnow hstep hdue, h.ends]

/-! ## The abort -/

/-- The bootstrap was aborted in phase `p`, and the pass over what was held is thread `0`. -/
structure World.Failing (closeTimeout : Duration) (rs : List (Resource (Action α))) (p : Phase α)
    (start : Nat) (launched : List (Resource (Action α))) (w : World α) : Prop where
  launches : p.Launches ⟨closeTimeout, true⟩ launched
  passing : w.Passing ⟨closeTimeout, false⟩ (rs ++ launched).length .fatalBootstrap
    (start + p.time ⟨closeTimeout, true⟩) (closingOrder (entriesOf (rs ++ launched))) 0

theorem World.Launched.abort {result : Option (Except String (Value α))}
    (h : w.Launched closeTimeout rs p start result) (b : Bootstrap α) (e : BootFailure) :
    ∃ launched, (b.abort w e).1.Failing closeTimeout rs p start launched := by
  obtain ⟨launched, hlaunches, hready⟩ := h.launched
  have htold : (w.error "Startup failed, tearing down"
      [("phase", e.phase), ("error", e.message)]).Ready closeTimeout .bootstrapping
      (rs ++ launched) := hready.of_same rfl rfl
  obtain ⟨hnow, hthreads⟩ := World.leaveBootstrap_eq (w.error "Startup failed, tearing down"
    [("phase", e.phase), ("error", e.message)]) .failedStartup
  replace hthreads := hthreads.trans h.threads
  have hpassing := (htold.leaveBootstrap .failedStartup).trigger
    (by rw [hthreads]; simp) .fatalBootstrap
  rw [hnow, hthreads] at hpassing
  exact ⟨launched, hlaunches, h.now ▸ hpassing⟩

theorem World.Failing.beside {launched : List (Resource (Action α))}
    (h : w.Failing closeTimeout rs p start launched)
    (hbeside : w.Beside (rs ++ launched).length w') :
    w'.Failing closeTimeout rs p start launched :=
  ⟨h.launches, h.passing.beside hbeside⟩

/-! ## The request -/

namespace Session

/-- A session whose bootstrap goes on, after the phases with these names. -/
structure Starting (closeTimeout : Duration) (names : List String)
    (rs : List (Resource (Action α))) (s : Session α) : Prop where
  ready : s.Ready closeTimeout .bootstrapping rs
  aborted : s.aborted = false
  isFinished : s.isFinished = false
  begun : s.world.begunPhases = names

variable {names : List String}

inductive Phasing (closeTimeout : Duration) (names : List String)
    (rs : List (Resource (Action α))) (p : Phase α) (start : Nat) :
    Session α → Waiting α → Prop
  | before {s : Session α} (h : s.Starting closeTimeout names rs) (hnow : s.now = start) :
      Phasing closeTimeout names rs p start s
        (.bootstrap true { waiting := [p], aborted := false })
  | within {s : Session α} {b : Bootstrap α} (due : Nat) (job : Work α)
      (hb : b.stand = .body p.name p.limit due job ∧ b.waiting = [] ∧ b.aborted = false)
      (h : s.world.Launching closeTimeout rs p start due job)
      (hs : s.spawned = [] ∧ s.isFinished = false)
      (hbegun : s.world.begunPhases = names ++ [p.name]) :
      Phasing closeTimeout names rs p start s (.bootstrap true b)
  | done {s : Session α} {b : Bootstrap α} (v : Value α)
      (hb : b.stand = .between ∧ b.waiting = [] ∧ b.aborted = false ∧ b.value = v)
      (h : s.world.Launched closeTimeout rs p start (some (.ok v)))
      (hs : s.spawned = [] ∧ s.isFinished = false)
      (hbegun : s.world.begunPhases = names ++ [p.name]) :
      Phasing closeTimeout names rs p start s (.bootstrap true b)
  | tearingDown {s : Session α} {b : Bootstrap α} (launched : List (Resource (Action α)))
      (hlate : ¬ p.InTime ⟨closeTimeout, true⟩)
      (hb : b.stand = .tearingDown (p.failure ⟨closeTimeout, true⟩))
      (h : s.world.Failing closeTimeout rs p start launched)
      (hbegun : s.world.begunPhases = names ++ [p.name]) :
      Phasing closeTimeout names rs p start s (.bootstrap true b)
  | ran {s : Session α} (v : Value α)
      (h : s.world.Launched closeTimeout rs p start (some (.ok v)))
      (hs : s.spawned = [] ∧ s.isFinished = false ∧ s.aborted = false)
      (hbegun : s.world.begunPhases = names ++ [p.name]) :
      Phasing closeTimeout names rs p start s (.answered (.value v))
  | failed {s : Session α} (launched : List (Resource (Action α)))
      (hlate : ¬ p.InTime ⟨closeTimeout, true⟩)
      (h : s.world.Failing closeTimeout rs p start launched)
      (hfinished : s.world.threads[0]? = some .finished)
      (hbegun : s.world.begunPhases = names ++ [p.name]) :
      Phasing closeTimeout names rs p start s
        (.answered (.bootstrapError (p.failure ⟨closeTimeout, true⟩)))

/-- **A step of the bootstrap within the phase goes on with it, completes it or aborts.** -/
theorem step_launching {b : Bootstrap α} (h : w.Launching closeTimeout rs p start due job)
    (hb : b.stand = .body p.name p.limit due job) {next : Bootstrap α ⊕ Bootstrap.Result α}
    (hstep : b.step w = some (w', next)) :
    (∃ job', next = .inl { b with stand := .body p.name p.limit due job' } ∧
        w'.Launching closeTimeout rs p start due job') ∨
      (∃ value, next = .inl { b with
          stand := .between
          completed := b.completed ++ [p.name]
          value } ∧
        w'.Launched closeTimeout rs p start (some (.ok value))) ∨
      ∃ b' launched, next = .inl b' ∧ ¬ p.InTime ⟨closeTimeout, true⟩ ∧
        b'.stand = .tearingDown (p.failure ⟨closeTimeout, true⟩) ∧
        w'.Failing closeTimeout rs p start launched := by
  simp only [Bootstrap.step, hb] at hstep
  split at hstep
  · case h_1 w₁ job' hjob =>
    cases hstep
    rcases h.step hjob with ⟨job'', hsame, h'⟩ | ⟨result, hnone, -⟩
    · cases hsame
      exact .inl ⟨job', rfl, h'⟩
    · cases hnone
  · case h_2 w₁ value hjob =>
    cases hstep
    rcases h.step hjob with ⟨job', hnone, -⟩ | ⟨result, hsame, h'⟩
    · cases hnone
    · cases hsame
      obtain ⟨launched, hlaunches, hready⟩ := h'.launched
      exact .inr (.inl ⟨value, rfl, ⟨launched, hlaunches, hready.of_same rfl rfl⟩, h'.threads,
        h'.now, h'.result⟩)
  · case h_3 w₁ reason hjob =>
    cases hstep
    rcases h.step hjob with ⟨job', hnone, -⟩ | ⟨result, hsame, h'⟩
    · cases hnone
    · cases hsame
      obtain ⟨launched, hfailing⟩ := h'.abort b (.phaseFailed p.name reason)
      refine .inr (.inr ⟨_, launched, rfl, ?_, ?_, hfailing⟩)
      · rw [Phase.inTime_iff, h'.result]
        rintro ⟨v, hv⟩
        cases hv
      · rw [Phase.failure, h'.result, Bootstrap.abort]
  · case h_4 hjob =>
    split at hstep
    · case isTrue hdue =>
      cases hstep
      have hgone : w.giveUp job.refusals = w := by
        rw [h.calm.refusals_eq_nil, World.giveUp, List.map_nil, List.append_nil]
      rw [hgone]
      have h' := h.cutOff hjob hdue
      obtain ⟨launched, hfailing⟩ := h'.abort b (.phaseTimedOut p.name p.limit)
      refine .inr (.inr ⟨_, launched, rfl, ?_, ?_, hfailing⟩)
      · rw [Phase.inTime_iff, h'.result]
        rintro ⟨v, hv⟩
        cases hv
      · rw [Phase.failure, h'.result, Bootstrap.abort]
    · cases hstep

theorem Phasing.request (hcalm : p.IsCalm) {s s' : Session α} {r r' : Waiting α}
    (h : Phasing closeTimeout names rs p start s r) (hstep : r.step s = some (s', r')) :
    Phasing closeTimeout names rs p start s' r' := by
  cases h with
  | before hs hnow =>
    cases hstep
    refine .within _ _ ⟨rfl, rfl, rfl⟩ ?_ ⟨hs.ready.spawned, hs.isFinished⟩ ?_
    · exact hnow ▸ hs.ready.world.launch hs.ready.threads hcalm
    · rw [← hs.begun]
      simp [World.begunPhases, World.note, Note.begun?]
  | within due job hb h hs hbegun =>
    cases Waiting.step_steps hstep with
    | boot hb' =>
      have hbegun' := (Bootstrap.step_begunPhases hb' hb.2.1).trans hbegun
      rcases step_launching h hb.1 hb' with ⟨job', hsame, h'⟩ | ⟨v, hsame, h'⟩ |
        ⟨b'', launched, hsame, hlate, hstand, h'⟩
      · cases hsame
        exact .within due job' ⟨rfl, hb.2⟩ h' hs hbegun'
      · cases hsame
        exact .done v ⟨rfl, hb.2.1, hb.2.2, rfl⟩ h' hs hbegun'
      · cases hsame
        exact .tearingDown launched hlate hstand h' hbegun'
    | booted hb' =>
      rcases step_launching h hb.1 hb' with ⟨job', hnone, -⟩ | ⟨v, hnone, -⟩ |
        ⟨b', launched, hnone, -⟩ <;> cases hnone
  | done v hb h hs hbegun =>
    obtain ⟨hstand, hwaiting, haborted, rfl⟩ := hb
    simp only [Waiting.step, Bootstrap.step, hstand, hwaiting] at hstep
    cases hstep
    exact .ran _ h ⟨hs.1, hs.2, haborted⟩ hbegun
  | tearingDown launched hlate hstand h hbegun =>
    cases Waiting.step_steps hstep with
    | boot hb =>
      obtain ⟨-, hnone, -⟩ := step_tearingDown hstand hb 0
      cases hnone
    | booted hb =>
      obtain ⟨hreport, hsame, hbeside⟩ := step_tearingDown hstand hb (rs ++ launched).length
      cases hsame
      obtain ⟨r, hr⟩ := Option.isSome_iff_exists.mp hreport
      exact .failed launched hlate (h.beside hbeside)
        (hbeside.getElem?_threads (h.passing.finished_of_report hr))
        ((World.begunPhases_of_phases hbeside.phases).trans hbegun)
  | ran => cases hstep
  | failed => cases hstep

theorem world_step_eq_none {w : World α} (h : w.threads = []) : w.step = none := by
  rw [World.step, h]
  rfl

/-- What the threads do while the request waits. -/
theorem Phasing.thread {s : Session α} {r : Waiting α}
    (h : Phasing closeTimeout names rs p start s r) {world : World α}
    (hworld : s.world.step = some world) :
    Phasing closeTimeout names rs p start { s with world } r := by
  cases h with
  | before hs hnow =>
    rw [world_step_eq_none hs.ready.threads] at hworld
    cases hworld
  | within due job hb h hs hbegun =>
    rw [world_step_eq_none h.threads] at hworld
    cases hworld
  | done v hb h hs hbegun =>
    rw [world_step_eq_none h.threads] at hworld
    cases hworld
  | tearingDown launched hlate hstand h hbegun =>
    exact .tearingDown launched hlate hstand ⟨h.launches, h.passing.step hworld⟩
      ((World.step_begunPhases hworld).trans hbegun)
  | ran v h hs hbegun =>
    rw [world_step_eq_none h.threads] at hworld
    cases hworld
  | failed launched hlate h hfinished hbegun =>
    exact .failed launched hlate ⟨h.launches, h.passing.step hworld⟩
      (World.step_finished hworld hfinished) ((World.step_begunPhases hworld).trans hbegun)

theorem Phasing.clock {s : Session α} {r : Waiting α} {t : Nat}
    (h : Phasing closeTimeout names rs p start s r) (hr : ∀ reply, r ≠ .answered reply)
    (hstep : s.step r = none) (hdue : s.nextDue r = some t) :
    Phasing closeTimeout names rs p start (s.at t) r := by
  obtain ⟨hrequest, hworld⟩ := step_eq_none hstep
  cases h with
  | before hs hnow => cases hrequest
  | @within b due job hb h hs hbegun =>
    obtain ⟨hjob, hlt⟩ := step_within_eq_none hb.1 (step_bootstrap_eq_none hrequest)
    have hwait : (Waiting.bootstrap true b).nextDue s.now =
        earlier (after s.now due) (job.nextDue s.now) := by
      simp [Waiting.nextDue, Bootstrap.nextDue, hb.1]
    have hle := (nextDue_le hdue).1
    rw [hwait] at hle
    obtain ⟨hcut, hinner⟩ := le_of_le_earlier hle
    have hnow : s.world.now ≤ t := by
      rcases earlier_eq_some hdue with hdue | hdue
      · exact Nat.le_of_lt (Waiting.lt_nextDue hdue)
      · exact Nat.le_of_lt (World.lt_nextDue hdue)
    exact .within due job hb (h.at hjob hnow (hcut due (after_of_lt hlt)) hinner) hs
      hbegun
  | @done b v hb h hs hbegun =>
    simp only [Waiting.step, Bootstrap.step, hb.1, hb.2.1] at hrequest
    cases hrequest
  | @tearingDown b launched hlate hstand h hbegun =>
    have hreport := report_eq_none_of_tearingDown hstand (step_bootstrap_eq_none hrequest)
    have hwait : (Waiting.bootstrap true b).nextDue s.now = none := by
      simp [Waiting.nextDue, Bootstrap.nextDue, hstand]
    have hnext : s.world.nextDue = some t := by
      rw [Session.nextDue, hwait] at hdue
      exact hdue
    have hpassing := h.passing.at hworld hreport (Nat.le_of_lt (World.lt_nextDue hnext))
      (nextDue_le hdue).2
    exact .tearingDown launched hlate hstand ⟨h.launches, hpassing⟩ hbegun
  | ran => exact absurd rfl (hr _)
  | failed => exact absurd rfl (hr _)

theorem Phasing.goes (hcalm : p.IsCalm) {a b : Session α × Waiting α} (h : Goes a b)
    (ha : Phasing closeTimeout names rs p start a.1 a.2) :
    Phasing closeTimeout names rs p start b.1 b.2 := by
  cases h with
  | @step s s' r r' h =>
    unfold Session.step at h
    split at h
    · case h_1 next hnext =>
      cases h
      exact ha.request hcalm hnext
    · case h_2 hrequest =>
      obtain ⟨world, hworld, hsame⟩ := Option.map_eq_some_iff.mp h
      cases hsame
      exact ha.thread hworld
  | clock hr hstep hdue => exact ha.clock hr hstep hdue

/-- The request is never left waiting for nothing. -/
theorem Phasing.answered {s : Session α} {r : Waiting α}
    (h : Phasing closeTimeout names rs p start s r) (hsettled : s.Settled r) :
    ∃ reply, r = .answered reply := by
  rcases hsettled.2 with hanswered | hdue
  · exact hanswered
  · obtain ⟨hrequest, hworld⟩ := step_eq_none hsettled.1
    obtain ⟨hwait, hthreads⟩ := earlier_eq_none_iff.mp hdue
    cases h with
    | before hs hnow => cases hrequest
    | @within b due job hb h hs hbegun =>
      -- the body is cut off at its limit, so it is due
      obtain ⟨hjob, hlt⟩ := step_within_eq_none hb.1 (step_bootstrap_eq_none hrequest)
      simp only [Waiting.nextDue, Bootstrap.nextDue, hb.1] at hwait
      obtain ⟨hcut, -⟩ := earlier_eq_none_iff.mp hwait
      have hlate : after s.now due = some due := after_of_lt hlt
      rw [hcut] at hlate
      cases hlate
    | @done b v hb h hs hbegun =>
      simp only [Waiting.step, Bootstrap.step, hb.1, hb.2.1] at hrequest
      cases hrequest
    | tearingDown launched hlate hstand h hbegun =>
      have hreport := report_eq_none_of_tearingDown hstand (step_bootstrap_eq_none hrequest)
      obtain ⟨d, hd⟩ := h.passing.nextDue hworld hreport
      rw [hthreads] at hd
      cases hd
    | ran => exact ⟨_, rfl⟩
    | failed => exact ⟨_, rfl⟩

/-- What there is when a phase has aborted the bootstrap. -/
structure Aborted (closeTimeout : Duration) (names : List String)
    (rs : List (Resource (Action α))) (s : Session α) : Prop where
  begun : s.world.begunPhases = names
  state : s.world.coordinator.state = .stopped
  report : s.world.coordinator.report = some
    ⟨.fatalBootstrap, (closingOrder (entriesOf rs)).map (·.resource.name),
      (closingOrder (entriesOf rs)).filterMap (·.resource.failure? ⟨closeTimeout, false⟩)⟩

/-- **The request for a phase comes to its end.** -/
theorem Starting.phasing {s : Session α} (h : s.Starting closeTimeout names rs) (hcalm : p.IsCalm) :
    ∃ s' reply, s.perform (.phase p) = (s', reply) ∧
      Phasing closeTimeout names rs p s.now s' (.answered reply) := by
  have hbegin : s.begin (.phase p) = (s, .bootstrap true { waiting := [p], aborted := false }) := by
    simp [Session.begin, h.isFinished, h.aborted]
  obtain ⟨s', reply, hperform, hs', -⟩ := perform_keeps
    (J := Phasing closeTimeout names rs p s.now) s (.phase p)
    (by rw [hbegin]; exact .before h rfl) (Phasing.goes hcalm) Phasing.answered
  exact ⟨s', reply, hperform, hs'⟩

/-- **A phase that is in time launches what it does, and any other is closed again with all that was
held.** -/
theorem Starting.phase {s : Session α} (h : s.Starting closeTimeout names rs) (hcalm : p.IsCalm) :
    ∃ s' launched, p.Launches ⟨closeTimeout, true⟩ launched ∧
      ((p.InTime ⟨closeTimeout, true⟩ ∧ ∃ v, s.perform (.phase p) = (s', .value v) ∧
        s'.Starting closeTimeout (names ++ [p.name]) (rs ++ launched) ∧
        s'.now = s.now + p.time ⟨closeTimeout, true⟩) ∨
      (¬ p.InTime ⟨closeTimeout, true⟩ ∧
        s.perform (.phase p) = (s', .bootstrapError (p.failure ⟨closeTimeout, true⟩)) ∧
        s'.Aborted closeTimeout (names ++ [p.name]) (rs ++ launched))) := by
  obtain ⟨s', reply, hperform, hs'⟩ := h.phasing hcalm
  cases hs' with
  | ran v h' hs hbegun =>
    obtain ⟨launched, hlaunches, hready⟩ := h'.launched
    exact ⟨s', launched, hlaunches, .inl ⟨Phase.inTime_iff.mpr ⟨v, h'.result⟩, v, hperform,
      ⟨⟨hready, h'.threads, hs.1⟩, hs.2.2, hs.2.1, hbegun⟩, h'.now⟩⟩
  | failed launched hlate h' hfinished hbegun =>
    obtain ⟨hreport, hstate, -⟩ := h'.passing.of_finished hfinished
    exact ⟨s', launched, h'.launches, .inr ⟨hlate, hperform, hbegun, hstate, hreport⟩⟩

/-! ## Other requests -/

/-- A request that is answered at once leaves nothing to wait for. -/
theorem perform_answered {s s₁ : Session α} {r : Request α} {reply : Reply α}
    (hbegin : s.begin r = (s₁, .answered reply)) (hthreads : s₁.world.threads = []) :
    s.perform r = (s₁, reply) := by
  obtain ⟨s', reply', hperform, ⟨rfl, hsame⟩, -⟩ := perform_keeps
    (J := fun s' q => s' = s₁ ∧ q = .answered reply) s r (by rw [hbegin]; exact ⟨rfl, rfl⟩)
    (fun {a b} hgoes ha => by
      obtain ⟨s', q⟩ := a
      obtain ⟨rfl, rfl⟩ := ha
      cases hgoes with
      | step hstep =>
        rw [step_eq_none_of_threads hthreads rfl] at hstep
        cases hstep
      | clock hr => exact absurd rfl (hr _))
    fun {s' q} hq _ => ⟨reply, hq.2⟩
  cases hsame
  exact hperform

theorem Starting.finish {s : Session α} (h : s.Starting closeTimeout names rs) :
    ∃ s', s.perform .finish = (s', .flag true) ∧ s'.Ready closeTimeout .running rs ∧
      s'.world.begunPhases = names := by
  have hbegin : s.begin .finish =
      ({ s with world := s.world.becomeRunning.1, isFinished := true },
        .answered (.flag true)) := by
    simp [Session.begin, h.isFinished]
  have hthreads := (World.leaveBootstrap_eq s.world .running).2.trans h.ready.threads
  have hsame := (World.leaveBootstrap_effects s.world (.inl rfl) 0).begunPhases
  exact ⟨_, perform_answered hbegin hthreads,
    ⟨h.ready.world.leaveBootstrap .running, hthreads, h.ready.spawned⟩, hsame.trans h.begun⟩

inductive Sleeping (closeTimeout : Duration) (state : State) (rs : List (Resource (Action α)))
    (due : Nat) : Session α → Waiting α → Prop
  | before {s : Session α} (h : s.Ready closeTimeout state rs) (hdue : s.now ≤ due) :
      Sleeping closeTimeout state rs due s (.untilTime due)
  | slept {s : Session α} (h : s.Ready closeTimeout state rs) (hdue : s.now = due) :
      Sleeping closeTimeout state rs due s (.answered .done)

theorem Sleeping.goes {state : State} {a b : Session α × Waiting α} (h : Goes a b)
    (ha : Sleeping closeTimeout state rs due a.1 a.2) :
    Sleeping closeTimeout state rs due b.1 b.2 := by
  obtain ⟨s, q⟩ := a
  cases ha with
  | before hs hdue =>
    cases h with
    | step h =>
      by_cases hle : due ≤ s.world.now
      · have hslept : (Waiting.untilTime due).step s = some (s, .answered .done) := by
          simp [Waiting.step, hle]
        rw [step_of_request hslept] at h
        cases h
        exact .slept hs (Nat.le_antisymm hdue hle)
      · have hnone : (Waiting.untilTime due).step s = none := by
          simp [Waiting.step, hle]
        rw [step_eq_none_of_threads hs.threads hnone] at h
        cases h
    | @clock s r t hr hstep hnext =>
      have hlt : s.world.now < due := by
        have hrequest := (step_eq_none hstep).1
        simp only [Waiting.step] at hrequest
        split at hrequest
        · cases hrequest
        · case isFalse hnot => exact Nat.lt_of_not_le hnot
      exact .before ⟨hs.world.of_same rfl rfl, hs.threads, hs.spawned⟩
        ((nextDue_le hnext).1 due (after_of_lt hlt))
  | slept hs hdue =>
    cases h with
    | step h =>
      rw [step_eq_none_of_threads hs.threads rfl] at h
      cases h
    | clock hr => exact absurd rfl (hr _)

theorem Ready.sleep {state : State} {s : Session α} (h : s.Ready closeTimeout state rs)
    (time : Duration) : ∃ s', s.perform (.sleep time) = (s', .done) ∧
      s'.Ready closeTimeout state rs ∧ s'.now = s.now + time.millis := by
  obtain ⟨s', reply, hperform, hs', -⟩ := perform_keeps
    (J := Sleeping closeTimeout state rs (s.now + time.millis)) s (.sleep time)
    (.before h (Nat.le_add_right _ _)) Sleeping.goes fun {s q} hq hsettled => by
      cases hq with
      | before hs hdue =>
        obtain ⟨hrequest, -⟩ := step_eq_none hsettled.1
        simp only [Waiting.step] at hrequest
        split at hrequest
        · cases hrequest
        · case isFalse hnot =>
          rcases hsettled.2 with ⟨reply, hreply⟩ | hnone
          · exact ⟨reply, hreply⟩
          · obtain ⟨hwait, -⟩ := earlier_eq_none_iff.mp hnone
            have hlate := after_of_lt (Nat.lt_of_not_le hnot)
            cases hwait.symm.trans hlate
      | slept hs hdue => exact ⟨_, rfl⟩
  cases hs' with
  | slept hs hdue => exact ⟨s', hperform, hs, hdue⟩

end Session

end EventIntake.Lifecycle
