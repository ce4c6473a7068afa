import EventIntake.Proofs.Lifecycle.Bodies

/-!
# Deployments as bodies

The body of a phase may deploy workers instead.  Their starts take time, fail or hang, and each of
them is handed over when it is up, in whatever order that happens.  Which of them are up by the
limit of the phase and the deadline of the deployment follows from their starts alone (`cameUp`).

`Work.Calm.step` and `Work.Calm.at` say that neither a step nor a move of the clock changes what a
body has still to hand over, or else the step has handed it over.
-/

namespace EventIntake.Lifecycle

variable {α β : Type}

/-- Whether something has come to its end by `limit`, and without a failure. -/
def Course.isOkBy (limit : Nat) : Course (Except String β) → Bool
  | some (d, .ok _) => d ≤ limit
  | _ => false

/-- When something has come to its end without a failure, if it has by `limit`. -/
def Course.okBy? (limit : Nat) : Course (Except String β) → Option Nat
  | some (d, .ok _) => if d ≤ limit then some d else none
  | _ => none

/-- Whether an action only takes time, fails or hangs. -/
def Action.isTimed : Action α → Bool
  | .sleep _ | .fail _ | .hang => true
  | _ => false

/-- The resources of the workers that are up by `limit`. -/
def cameUp (g : Regime) (limit : Nat) (workers : List (List (Action α) × Resource (Action α))) :
    List (Resource (Action α)) :=
  (workers.filter fun x => (actionsCourse g x.1 .nothing).isOkBy limit).map Prod.snd

/-- The workers that are up by `limit`, each with how long that takes. -/
def arrivals (g : Regime) (limit : Nat) (workers : List (List (Action α) × Resource (Action α))) :
    List (Nat × Resource (Action α)) :=
  workers.filterMap fun x => ((actionsCourse g x.1 .nothing).okBy? limit).map (·, x.2)

/-- What happens that long after `t`. -/
def later (t : Nat) (arrival : Nat × Resource (Action α)) : Nat × Resource (Action α) :=
  (t + arrival.1, arrival.2)

/-- What a worker has still to hand over by `limit`, and at which instant. -/
def Worker.up (g : Regime) (now limit : Nat) (worker : Worker α) :
    List (Nat × Resource (Action α)) :=
  match worker with
  | .waiting _ _ r | .starting _ _ r => (((worker.ends g now).okBy? limit).map (·, r)).toList
  | .refused _ | .settled _ => []

/-- The workers that a body deploys and that are up by `limit`. -/
def deployedBy (g : Regime) (limit : Nat) : List (Action α) → List (Resource (Action α))
  | [.deploy deadline workers] => cameUp g (min deadline.millis limit) workers
  | _ => []

/-- The workers that a body deploys and that are up by `limit`, each with how long that takes. -/
def arrivalsBy (g : Regime) (limit : Nat) : List (Action α) → List (Nat × Resource (Action α))
  | [.deploy deadline workers] => arrivals g (min deadline.millis limit) workers
  | _ => []

/-- The workers of a body under way that are still to come up by `limit`. -/
def Work.up (g : Regime) (now limit : Nat) : Work α → List (Nat × Resource (Action α))
  | .mk .none _ rest => (arrivalsBy g (limit - now) rest).map (later now)
  | .mk (.deployment _ due workers) _ _ => workers.flatMap (Worker.up g now (min due limit))
  | _ => []

/-- A start under way that only takes time, fails or hangs. -/
inductive Work.Timed : Work α → Prop
  | running (value : Value α) (rest : List (Action α)) (h : ∀ a ∈ rest, a.isTimed) :
      Timed (.mk .none value rest)
  | asleep (due : Nat) (value : Value α) (rest : List (Action α)) (h : ∀ a ∈ rest, a.isTimed) :
      Timed (.mk (.untilTime due) value rest)
  | hanging (value : Value α) (rest : List (Action α)) : Timed (.mk .forever value rest)

inductive Worker.Timed : Worker α → Prop
  | waiting (number : Nat) (start : List (Action α)) (r : Resource (Action α))
      (h : ∀ a ∈ start, a.isTimed) : Timed (.waiting number start r)
  | starting (number : Nat) (job : Work α) (r : Resource (Action α)) (h : job.Timed) :
      Timed (.starting number job r)
  | settled (result : Except String Unit) : Timed (.settled result)

/-- A deployment to come or under way, and not past its deadline. -/
inductive Work.Deploying (now : Nat) : Work α → Prop
  | before (value : Value α) (deadline : Duration)
      (workers : List (List (Action α) × Resource (Action α)))
      (h : ∀ x ∈ workers, ∀ a ∈ x.1, a.isTimed) :
      Deploying now (.mk .none value [.deploy deadline workers])
  | within (value : Value α) (deadline : Duration) (due : Nat) (workers : List (Worker α))
      (h : ∀ worker ∈ workers, worker.Timed) (hdue : now ≤ due) :
      Deploying now (.mk (.deployment deadline due workers) value [])

/-- A body under way of either kind. -/
inductive Work.Calm (now : Nat) (job : Work α) : Prop
  | plain (h : job.Plain)
  | deploying (h : job.Deploying now)

variable {g : Regime} {limit : Nat} {w w' : World α} {job : Work α}

/-! ## Arrivals -/

theorem Course.isSome_okBy? (limit : Nat) (c : Course (Except String β)) :
    (c.okBy? limit).isSome = c.isOkBy limit := by
  match c with
  | none => rfl
  | some (d, .error e) => rfl
  | some (d, .ok b) => by_cases hd : d ≤ limit <;> simp [okBy?, isOkBy, hd]

theorem arrivals_snd (g : Regime) (limit : Nat)
    (workers : List (List (Action α) × Resource (Action α))) :
    (arrivals g limit workers).map Prod.snd = cameUp g limit workers := by
  induction workers with
  | nil => rfl
  | cons x rest ih =>
    rw [arrivals, List.filterMap_cons, ← arrivals, cameUp, List.filter_cons,
      ← Course.isSome_okBy?]
    cases (actionsCourse g x.1 .nothing).okBy? limit with
    | none => exact ih
    | some d => exact congrArg (x.2 :: ·) ih

theorem arrivalsBy_snd (g : Regime) (limit : Nat) (body : List (Action α)) :
    (arrivalsBy g limit body).map Prod.snd = deployedBy g limit body := by
  match body with
  | [] => rfl
  | [a] =>
    cases a with
    | deploy deadline workers => exact arrivals_snd g _ workers
    | _ => rfl
  | a :: b :: rest => cases a <;> rfl

theorem arrivalsBy_of_plain {body : List (Action α)} (h : ∀ a ∈ body, a.isPlain) :
    arrivalsBy g limit body = [] := by
  match body with
  | [] => rfl
  | [a] =>
    cases a with
    | deploy deadline workers => cases h _ List.mem_cons_self
    | _ => rfl
  | a :: b :: rest => cases a <;> rfl

theorem deployedBy_of_plain {body : List (Action α)} (h : ∀ a ∈ body, a.isPlain) :
    deployedBy g limit body = [] := by
  rw [← arrivalsBy_snd, arrivalsBy_of_plain h, List.map_nil]

theorem Work.Plain.up_eq_nil (h : job.Plain) (now : Nat) : job.up g now limit = [] := by
  cases h with
  | running value rest h => exact List.map_eq_nil_iff.mpr (arrivalsBy_of_plain h)
  | asleep due value rest h => rfl
  | hanging value rest => rfl

/-! ## Steps -/

theorem Work.Timed.step (h : job.Timed) {next : Stepped α} (hstep : Work.Steps w job w' next) :
    w' = w ∧ ∀ job', next = .inl job' → job'.Timed := by
  cases h with
  | running value rest hrest =>
    cases hstep with
    | finish => exact ⟨rfl, fun job' h => by cases h⟩
    | begin a value rest =>
      have hfirst : a.isTimed := hrest a List.mem_cons_self
      have hlater : ∀ b ∈ rest, b.isTimed := fun b hb => hrest b (List.mem_cons_of_mem a hb)
      cases a with
      | sleep time => exact ⟨rfl, fun job' h => by cases h; exact .asleep _ value rest hlater⟩
      | fail message => exact ⟨rfl, fun job' h => by cases h⟩
      | hang => exact ⟨rfl, fun job' h => by cases h; exact .hanging value rest⟩
      | _ => cases hfirst
  | asleep due value rest hrest =>
    cases hstep with
    | wake hdue => exact ⟨rfl, fun job' h => by cases h; exact .running value rest hrest⟩
  | hanging value rest => cases hstep

/-- What one step of some workers does: it hands at most one of them over, and that one when its
start has ended. -/
inductive Workers.Raise (g : Regime) (limit : Nat) (w : World α) (workers : List (Worker α)) :
    World α → List (Worker α) → Prop
  | on {next : List (Worker α)} (h : ∀ worker ∈ next, worker.Timed)
      (hup : next.flatMap (Worker.up g w.now limit) = workers.flatMap (Worker.up g w.now limit)) :
      Raise g limit w workers w next
  | created {next : List (Worker α)} (number : Nat) (h : ∀ worker ∈ next, worker.Timed)
      (hup : next.flatMap (Worker.up g w.now limit) = workers.flatMap (Worker.up g w.now limit)) :
      Raise g limit w workers (w.record (.creating number)) next
  | raised {next : List (Worker α)} (r : Resource (Action α)) (h : ∀ worker ∈ next, worker.Timed)
      (hup : (workers.flatMap (Worker.up g w.now limit)).Perm
        ((w.now, r) :: next.flatMap (Worker.up g w.now limit))) :
      Raise g limit w workers (w.register r).1 next

theorem Worker.Timed.step (hw : w.Under g) (hacc : g.accepting = true) (hlimit : w.now ≤ limit)
    {worker next : Worker α} (h : worker.Timed) (hstep : Worker.Steps w worker w' next) :
    Workers.Raise g limit w [worker] w' [next] := by
  have hends := Worker.Steps.ends_eq hw hstep
  have hsingle : ∀ {x : Worker α}, x.Timed → ∀ y ∈ [x], y.Timed := fun hx y hy =>
    List.mem_singleton.mp hy ▸ hx
  cases h with
  | waiting number start r h =>
    cases hstep with
    | create =>
      refine .created number (hsingle (.starting _ _ _ (.running _ _ h))) ?_
      simp only [List.flatMap_singleton, Worker.up, hends]
  | starting number job r h =>
    cases hstep with
    | start hjob =>
      obtain ⟨rfl, htimed⟩ := h.step hjob
      refine .on (hsingle (.starting _ _ _ (htimed _ rfl))) ?_
      simp only [List.flatMap_singleton, Worker.up, hends]
    | @up w₁ job value hjob =>
      obtain ⟨rfl, -⟩ := h.step hjob
      have hcoord : w₁.coordinator.accepting = true := hw.accepting.trans hacc
      have henroll : Worker.enroll w₁ r = ((w₁.register r).1, .settled (.ok ())) := by
        rw [Worker.enroll, World.register_of_accepting hcoord]
      rw [henroll] at hends ⊢
      refine .raised r (hsingle (.settled _)) ?_
      simp only [List.flatMap_singleton, Worker.up, ← hends]
      simp [Worker.ends, Course.okBy?, hlimit]
    | fail hjob =>
      obtain ⟨rfl, -⟩ := h.step hjob
      refine .on (hsingle (.settled _)) ?_
      simp only [List.flatMap_singleton, Worker.up, ← hends]
      simp [Worker.ends, Course.okBy?]
  | settled result => cases hstep

theorem Workers.step (hw : w.Under g) (hacc : g.accepting = true) (hlimit : w.now ≤ limit)
    {workers next : List (Worker α)} (h : ∀ worker ∈ workers, worker.Timed)
    (hstep : WorkersSteps w workers w' next) : Workers.Raise g limit w workers w' next := by
  induction workers generalizing next with
  | nil => cases hstep
  | cons worker rest ih =>
    obtain ⟨hworker, hrest⟩ := List.forall_mem_cons.mp h
    cases hstep with
    | here hstep =>
      cases hworker.step hw hacc hlimit hstep with
      | on h hup =>
        refine .on (List.forall_mem_cons.mpr ⟨List.forall_mem_singleton.mp h, hrest⟩) ?_
        simpa using hup
      | created number h hup =>
        refine .created number (List.forall_mem_cons.mpr ⟨List.forall_mem_singleton.mp h, hrest⟩) ?_
        simpa using hup
      | raised r h hup =>
        refine .raised r (List.forall_mem_cons.mpr ⟨List.forall_mem_singleton.mp h, hrest⟩) ?_
        simpa using hup.append_right (rest.flatMap (Worker.up g w.now limit))
    | there hwaits hstep =>
      cases ih hrest hstep with
      | on h hup =>
        refine .on (List.forall_mem_cons.mpr ⟨hworker, h⟩) ?_
        rw [List.flatMap_cons, List.flatMap_cons, hup]
      | created number h hup =>
        refine .created number (List.forall_mem_cons.mpr ⟨hworker, h⟩) ?_
        rw [List.flatMap_cons, List.flatMap_cons, hup]
      | raised r h hup =>
        refine .raised r (List.forall_mem_cons.mpr ⟨hworker, h⟩) ?_
        rw [List.flatMap_cons, List.flatMap_cons]
        exact (hup.append_left _).trans List.perm_middle

/-! ## Workers that wait -/

/-- A course that is delayed ends later. -/
theorem Course.okBy?_delay {t : Nat} (h : t ≤ limit) (c : Course (Except String β)) :
    (c.delay t).okBy? limit = (c.okBy? (limit - t)).map (t + ·) := by
  match c with
  | none => rfl
  | some (d, .error e) => rfl
  | some (d, .ok b) =>
    by_cases hd : d ≤ limit - t
    · have hlate : t + d ≤ limit := by omega
      simp [Course.delay, Course.okBy?, hd, hlate]
    · have hlate : ¬ t + d ≤ limit := by omega
      simp [Course.delay, Course.okBy?, hd, hlate]

/-- A worker whose resource is accepted is up when its start has ended. -/
theorem Course.okBy?_enroll (hacc : g.accepting = true) (number : Nat) (name : String)
    (closeTime : Nat) (c : Course (Except String (Value α))) :
    (c.enroll g number name closeTime).okBy? limit = c.okBy? limit := by
  match c with
  | none => rfl
  | some (d, .error e) => rfl
  | some (d, .ok b) => simp [Course.enroll, hacc, Course.okBy?]

theorem up_waiting (hacc : g.accepting = true) {now : Nat} (hnow : now ≤ limit)
    (workers : List ((List (Action α) × Resource (Action α)) × Nat)) :
    (workers.map fun ((start, r), i) => Worker.waiting i start r).flatMap (Worker.up g now limit) =
      (arrivals g (limit - now) (workers.map Prod.fst)).map (later now) := by
  induction workers with
  | nil => rfl
  | cons x rest ih =>
    obtain ⟨⟨start, r⟩, i⟩ := x
    rw [List.map_cons, List.flatMap_cons, ih]
    simp only [Worker.up, Worker.ends, Course.okBy?_delay hnow, Course.okBy?_enroll hacc,
      arrivals, List.map_cons, List.filterMap_cons]
    cases (actionsCourse g start .nothing).okBy? (limit - now) <;> rfl

theorem Worker.Waits.up_eq_nil {worker : Worker α} (h : Worker.Waits w worker)
    (hlimit : limit ≤ w.now) : worker.up g w.now limit = [] := by
  cases h with
  | @starting job h number r =>
    have hlate : ((Worker.starting number job r).ends g w.now).okBy? limit = none := by
      match hends : (Worker.starting number job r).ends g w.now with
      | none => rfl
      | some (t, .error e) => rfl
      | some (t, .ok v) =>
        rcases (Worker.Waits.starting h number r).nextDue_le_ends hends with ⟨result, hr⟩ |
          ⟨d, hd, hle⟩
        · cases hr
        · have hlt := Worker.lt_nextDue hd
          exact if_neg (by omega)
    rw [Worker.up, hlate]
    rfl
  | closing h hdue ticket name stage => rfl
  | settled result => rfl

theorem Worker.Waits.up_at {t : Nat} {worker : Worker α} (h : Worker.Waits w worker)
    (hnow : w.now ≤ t) (hnext : ∀ d, worker.nextDue w.now = some d → t ≤ d) :
    worker.up g t limit = worker.up g w.now limit := by
  rcases h.ends_at (g := g) hnow hnext with ⟨result, rfl⟩ | hends
  · rfl
  · cases worker with
    | waiting number start r => rw [Worker.up, Worker.up, hends]
    | starting number start r => rw [Worker.up, Worker.up, hends]
    | refused closing => rfl
    | settled result => rfl

theorem WorkersWait.up_eq_nil {workers : List (Worker α)} (h : WorkersWait w workers)
    (hlimit : limit ≤ w.now) : workers.flatMap (Worker.up g w.now limit) = [] := by
  induction workers with
  | nil => rfl
  | cons worker rest ih =>
    cases h with
    | cons h hrest => rw [List.flatMap_cons, h.up_eq_nil hlimit, ih hrest, List.append_nil]

theorem WorkersWait.up_at {t : Nat} {workers : List (Worker α)} (h : WorkersWait w workers)
    (hnow : w.now ≤ t) (hnext : ∀ d, workersDue w.now workers = some d → t ≤ d) :
    workers.flatMap (Worker.up g t limit) = workers.flatMap (Worker.up g w.now limit) := by
  induction workers with
  | nil => rfl
  | cons worker rest ih =>
    obtain ⟨hworker, hlater⟩ := le_of_le_earlier hnext
    cases h with
    | cons h hrest =>
      rw [List.flatMap_cons, List.flatMap_cons, h.up_at hnow hworker, ih hrest hlater]

theorem up_of_results (g : Regime) (now limit : Nat) {workers : List (Worker α)}
    {results : List (Except String Unit)} (h : Worker.results workers = some results) :
    workers.flatMap (Worker.up g now limit) = [] := by
  induction workers generalizing results with
  | nil => rfl
  | cons worker rest ih =>
    cases worker with
    | settled r =>
      obtain ⟨results', hrest, -⟩ := Option.map_eq_some_iff.mp h
      rw [List.flatMap_cons, ih hrest]
      rfl
    | _ => cases h

/-! ## Bodies of either kind -/

/-- Starts alone leave no hand-over behind when they are given up. -/
theorem workersRefusals_of_timed {workers : List (Worker α)}
    (h : ∀ worker ∈ workers, worker.Timed) : workersRefusals workers = [] := by
  induction workers with
  | nil => rfl
  | cons worker rest ih =>
    obtain ⟨hworker, hrest⟩ := List.forall_mem_cons.mp h
    rw [workersRefusals, ih hrest, List.append_nil]
    cases hworker with
    | waiting number start r h => rfl
    | starting number job r hjob => cases hjob <;> rfl
    | settled result => rfl

theorem Work.Calm.refusals_eq_nil {now : Nat} (h : job.Calm now) : job.refusals = [] := by
  cases h with
  | plain h => cases h <;> rfl
  | deploying h =>
    cases h with
    | before value deadline workers h => rfl
    | within value deadline due workers h hdue => exact workersRefusals_of_timed h

/-- What one step of a body of either kind does: it hands at most one resource over, and what is
left to hand over by the limit is the rest. -/
inductive Work.Launches (g : Regime) (limit : Nat) (w : World α) (job : Work α) :
    World α → Stepped α → Prop
  | on {job' : Work α} (h : job'.Calm w.now)
      (hhands : job'.handsOver w.now limit = job.handsOver w.now limit)
      (hup : job'.up g w.now limit = job.up g w.now limit) : Launches g limit w job w (.inl job')
  | created {job' : Work α} (number : Nat) (h : job'.Calm w.now)
      (hhands : job'.handsOver w.now limit = job.handsOver w.now limit)
      (hup : job'.up g w.now limit = job.up g w.now limit) :
      Launches g limit w job (w.record (.creating number)) (.inl job')
  | handed {job' : Work α} (r : Resource (Action α)) (h : job'.Calm w.now)
      (hhands : job.handsOver w.now limit = r :: job'.handsOver w.now limit)
      (hup : job'.up g w.now limit = job.up g w.now limit) :
      Launches g limit w job (w.register r).1 (.inl job')
  | raised {job' : Work α} (r : Resource (Action α)) (h : job'.Calm w.now)
      (hnone : job.handsOver w.now limit = [] ∧ job'.handsOver w.now limit = [])
      (hup : (job.up g w.now limit).Perm ((w.now, r) :: job'.up g w.now limit)) :
      Launches g limit w job (w.register r).1 (.inl job')
  | done {result : Except String (Value α)} (hhands : job.handsOver w.now limit = [])
      (hup : job.up g w.now limit = []) : Launches g limit w job w (.inr result)

theorem Work.Deploying.step (hw : w.Under g) (hacc : g.accepting = true) (hlimit : w.now ≤ limit)
    (h : job.Deploying w.now) {next : Stepped α} (hstep : Work.Steps w job w' next) :
    Work.Launches g limit w job w' next := by
  cases h with
  | before value deadline workers h =>
    cases hstep with
    | begin a value rest =>
      have hdue : w.now ≤ min (w.dueIn deadline) limit :=
        Nat.le_min.mpr ⟨Nat.le_add_right _ _, hlimit⟩
      have hleft : min (w.dueIn deadline) limit - w.now =
          min deadline.millis (limit - w.now) := by
        simp only [World.dueIn]
        omega
      refine .on (.deploying (.within _ _ _ _ (fun worker hworker => ?_) (Nat.le_add_right _ _)))
        rfl ?_
      · obtain ⟨⟨⟨start, r⟩, i⟩, hmem, rfl⟩ := List.mem_map.mp hworker
        exact .waiting i start r (h _ (List.fst_mem_of_mem_zipIdx hmem))
      · rw [Work.up, Work.up, up_waiting hacc hdue, hleft, List.zipIdx_map_fst, arrivalsBy]
  | within value deadline due workers h hdue =>
    have hlimit' : w.now ≤ min due limit := Nat.le_min.mpr ⟨hdue, hlimit⟩
    cases hstep with
    | deploy hworkers deadline due value rest =>
      cases Workers.step hw hacc hlimit' h hworkers with
      | on h hup => exact .on (.deploying (.within _ _ _ _ h hdue)) rfl hup
      | created number h hup => exact .created number (.deploying (.within _ _ _ _ h hdue)) rfl hup
      | raised r h hup => exact .raised r (.deploying (.within _ _ _ _ h hdue)) ⟨rfl, rfl⟩ hup
    | deployed hworkers hafter value =>
      unfold Work.afterDeployment at hafter
      split at hafter
      · case h_1 results hresults =>
        have hup := up_of_results g w.now (min due limit) hresults
        split at hafter
        · cases hafter
          exact .done rfl hup
        · cases hafter
          exact .on (.plain (.running _ [] (by simp))) rfl hup.symm
      · split at hafter
        · case isTrue hlate =>
          have hgone : w.giveUp (workersRefusals workers) = w := by
            rw [workersRefusals_of_timed h, World.giveUp, List.map_nil, List.append_nil]
          rw [hgone] at hafter
          cases hafter
          exact .done rfl ((stepWorkers_waits hworkers).up_eq_nil
            (Nat.le_trans (Nat.min_le_left _ _) hlate))
        · cases hafter

theorem Work.Calm.step (hw : w.Under g) (hacc : g.accepting = true) (hlimit : w.now ≤ limit)
    (h : job.Calm w.now) {next : Stepped α} (hstep : job.step w = some (w', next)) :
    Work.Launches g limit w job w' next := by
  cases h with
  | plain h =>
    have hnone : job.up g w.now limit = [] := h.up_eq_nil w.now
    cases h.step (hw.accepting.trans hacc) hlimit hstep with
    | on h hsame => exact .on (.plain h) hsame ((h.up_eq_nil _).trans hnone.symm)
    | handed h r hfirst => exact .handed r (.plain h) hfirst ((h.up_eq_nil _).trans hnone.symm)
    | done hhands => exact .done hhands hnone
  | deploying h => exact h.step hw hacc hlimit (Work.step_steps hstep)

theorem Work.Calm.at {t : Nat} (h : job.Calm w.now) (hstep : job.step w = none) (hnow : w.now ≤ t)
    (hnext : ∀ d, job.nextDue w.now = some d → t ≤ d) :
    job.Calm t ∧ job.handsOver t limit = job.handsOver w.now limit ∧
      job.up g t limit = job.up g w.now limit := by
  have hwaits := Work.step_waits hstep
  cases h with
  | plain h =>
    exact ⟨.plain h, h.handsOver_at hstep hnext, (h.up_eq_nil t).trans (h.up_eq_nil w.now).symm⟩
  | deploying h =>
    cases h with
    | before value deadline workers h => cases hwaits
    | within value deadline due workers h hdue =>
      cases hwaits with
      | deploying hworkers hresults hlt =>
        obtain ⟨hcut, hinner⟩ := le_of_le_earlier hnext
        exact ⟨.deploying (.within _ _ _ _ h (hcut due (after_of_lt hlt))), rfl,
          hworkers.up_at hnow hinner⟩

theorem Work.Calm.eq_nil (h : job.Calm w.now) (hstep : job.step w = none) (hlimit : limit ≤ w.now) :
    job.handsOver w.now limit = [] ∧ job.up g w.now limit = [] := by
  have hwaits := Work.step_waits hstep
  cases h with
  | plain h => exact ⟨h.handsOver_eq_nil hstep hlimit, h.up_eq_nil w.now⟩
  | deploying h =>
    cases h with
    | before value deadline workers h => cases hwaits
    | within value deadline due workers h hdue =>
      cases hwaits with
      | deploying hworkers hresults hlt =>
        exact ⟨rfl, hworkers.up_eq_nil (Nat.le_trans (Nat.min_le_right _ _) hlimit)⟩

/-! ## What a body may launch -/

/-- The resources that an action hands over at the most. -/
def Action.resources : Action α → List (Resource (Action α))
  | .register r | .tryRegister r => [r]
  | .deploy _ workers => workers.map Prod.snd
  | _ => []

theorem handedOver_sublist (limit : Nat) (body : List (Action α)) :
    (handedOver limit body).Sublist (body.flatMap Action.resources) := by
  induction body generalizing limit with
  | nil => exact List.nil_sublist _
  | cons a rest ih =>
    rw [List.flatMap_cons]
    cases a with
    | register r => exact (ih limit).cons_cons r
    | sleep time =>
      simp only [handedOver]
      split
      · exact ih _
      · exact List.nil_sublist _
    | fail message => exact List.nil_sublist _
    | hang => exact List.nil_sublist _
    | _ => exact (ih limit).trans (List.sublist_append_right _ _)

theorem cameUp_sublist (g : Regime) (limit : Nat)
    (workers : List (List (Action α) × Resource (Action α))) :
    (cameUp g limit workers).Sublist (workers.map Prod.snd) :=
  List.filter_sublist.map _

theorem Course.mem_of_latest {t d : Nat} {cs : List (Course β)} {bs : List β}
    (h : Course.latest t cs = some (d, bs)) {c : Course β} (hc : c ∈ cs) :
    ∃ d' b, c = some (d', b) ∧ d' ≤ d ∧ b ∈ bs := by
  induction cs generalizing d bs with
  | nil => cases hc
  | cons c₁ rest ih =>
    obtain ⟨d₁, b₁, d₂, bs₂, rfl, hrest, rfl, rfl⟩ := Course.latest_cons_eq_some h
    rcases List.mem_cons.mp hc with rfl | hc
    · exact ⟨d₁, b₁, rfl, Nat.le_max_left _ _, List.mem_cons_self⟩
    · obtain ⟨d', b, hsame, hle, hmem⟩ := ih hrest hc
      exact ⟨d', b, hsame, Nat.le_trans hle (Nat.le_max_right _ _), List.mem_cons_of_mem _ hmem⟩

theorem ok_of_firstFailure {results : List (Except String Unit)} (h : firstFailure results = none)
    {r : Except String Unit} (hr : r ∈ results) : r = .ok () := by
  induction results with
  | nil => cases hr
  | cons r₁ rest ih =>
    cases r₁ with
    | error e => cases h
    | ok u =>
      rcases List.mem_cons.mp hr with rfl | hr
      · rfl
      · exact ih h hr

theorem mem_workersCourses (g : Regime) {workers : List (List (Action α) × Resource (Action α))}
    {x : List (Action α) × Resource (Action α)} (hx : x ∈ workers) (number : Nat) :
    ∃ i, (actionsCourse g x.1 .nothing).enroll g i x.2.name (resourceCourse g x.2).1 ∈
      workersCourses g workers number := by
  induction workers generalizing number with
  | nil => cases hx
  | cons y rest ih =>
    obtain ⟨start, r⟩ := y
    rw [workersCourses]
    rcases List.mem_cons.mp hx with rfl | hx
    · exact ⟨number, List.mem_cons_self⟩
    · obtain ⟨i, hi⟩ := ih hx (number + 1)
      exact ⟨i, List.mem_cons_of_mem _ hi⟩

/-- A deployment that goes well in time has all its workers up. -/
theorem cameUp_of_ok (hacc : g.accepting = true) {deadline : Duration}
    {workers : List (List (Action α) × Resource (Action α))} {value v : Value α} {d : Nat}
    (h : (Action.deploy deadline workers).course g value = some (d, .ok v)) (hd : d ≤ limit) :
    cameUp g (min deadline.millis limit) workers = workers.map Prod.snd := by
  rw [Action.course] at h
  rcases Course.cutOff_cases deadline.millis (Course.latest 0 (workersCourses g workers 0)) with
    hcut | ⟨t, results, hlatest, ht, hcut⟩
  · rw [hcut] at h
    cases h
  · rw [hcut, deployed] at h
    split at h
    · cases h
    · case h_2 hnone =>
      cases h
      have hall : ∀ x ∈ workers,
          (actionsCourse g x.1 .nothing).isOkBy (min deadline.millis limit) = true := by
        intro x hx
        obtain ⟨i, hi⟩ := mem_workersCourses g hx 0
        obtain ⟨d', b, hsame, hle, hmem⟩ := Course.mem_of_latest hlatest hi
        rw [← Course.isSome_okBy?, ← Course.okBy?_enroll hacc i x.2.name (resourceCourse g x.2).1,
          Course.isSome_okBy?, hsame, ok_of_firstFailure hnone hmem]
        simp only [Course.isOkBy, decide_eq_true_eq]
        omega
      rw [cameUp, List.filter_eq_self.mpr hall]

theorem Course.of_delay {t d : Nat} {c : Course β} {b : β} (h : c.delay t = some (d, b)) :
    ∃ d', c = some (d', b) ∧ t + d' = d := by
  match c with
  | none => cases h
  | some (d', b') =>
    cases h
    exact ⟨d', rfl, rfl⟩

/-- A body without workers that ends in time has handed over all that it mentions. -/
theorem handedOver_of_ok {body : List (Action α)} (hacc : g.accepting = true)
    (hplain : ∀ a ∈ body, a.isPlain) {value v : Value α} {d : Nat}
    (h : actionsCourse g body value = some (d, .ok v)) (hd : d ≤ limit) :
    handedOver limit body = body.flatMap Action.resources := by
  induction body generalizing value d limit with
  | nil => rfl
  | cons a rest ih =>
    obtain ⟨hfirst, hrest⟩ := List.forall_mem_cons.mp hplain
    rw [actionsCourse] at h
    rw [List.flatMap_cons]
    cases a with
    | register r =>
      rw [Action.course, if_pos hacc, Course.andThen] at h
      obtain ⟨d', hcourse, hsum⟩ := Course.of_delay h
      have hle : d' ≤ limit := by omega
      exact congrArg (r :: ·) (ih hrest hcourse hle)
    | sleep time =>
      rw [Action.course, Course.andThen] at h
      obtain ⟨d', hcourse, hsum⟩ := Course.of_delay h
      have htime : time.millis ≤ limit := by omega
      have hleft : d' ≤ limit - time.millis := by omega
      rw [handedOver, if_pos htime]
      exact ih hrest hcourse hleft
    | fail message =>
      rw [Action.course, Course.andThen] at h
      cases h
    | hang =>
      rw [Action.course, Course.andThen] at h
      cases h
    | _ => cases hfirst

/-- A body without workers that ends well holds no failure. -/
theorem fail_notMem_of_ok {body : List (Action α)} (hacc : g.accepting = true)
    (hplain : ∀ a ∈ body, a.isPlain) {value v : Value α} {d : Nat}
    (h : actionsCourse g body value = some (d, .ok v)) (message : String) :
    Action.fail message ∉ body := by
  induction body generalizing value d with
  | nil => exact List.not_mem_nil
  | cons a rest ih =>
    obtain ⟨hfirst, hrest⟩ := List.forall_mem_cons.mp hplain
    rw [actionsCourse] at h
    cases a with
    | register r =>
      rw [Action.course, if_pos hacc, Course.andThen] at h
      obtain ⟨d', hcourse, -⟩ := Course.of_delay h
      simpa using ih hrest hcourse
    | sleep time =>
      rw [Action.course, Course.andThen] at h
      obtain ⟨d', hcourse, -⟩ := Course.of_delay h
      simpa using ih hrest hcourse
    | fail message =>
      rw [Action.course, Course.andThen] at h
      cases h
    | hang =>
      rw [Action.course, Course.andThen] at h
      cases h
    | _ => cases hfirst

end EventIntake.Lifecycle
