import EventIntake.Proofs.Lifecycle.Bodies
import EventIntake.Proofs.Lifecycle.Shutdown

/-!
# The run of the phases

Phases run one after the other, each under its limit.  The course of a body says whether it comes to
its end in time; the first phase that does not aborts the bootstrap, and the run comes back when
everything that was handed over until then is closed (`Session.run_aborts_at_first_failure`).

Between two phases nothing is under way.  Within one its body is, and what it has still to hand over
and when it ends are foretold by `World.Within`.  After an abort what is left is the pass.
-/

namespace EventIntake.Lifecycle

variable {α : Type}

namespace Phase

/-- What the body comes to within the limit, and how long it takes. -/
def course (g : Regime) (p : Phase α) : Nat × Option (Except String (Value α)) :=
  (actionsCourse g p.body .nothing).cutOff p.limit.millis

def time (g : Regime) (p : Phase α) : Nat := (p.course g).1

/-- Whether the body comes to its end, and without a failure, no later than at the limit. -/
def InTime (g : Regime) (p : Phase α) : Prop :=
  ∃ d v, actionsCourse g p.body .nothing = some (d, .ok v) ∧ d ≤ p.limit.millis

/-- What a phase that is not in time aborts the bootstrap with. -/
def failure (g : Regime) (p : Phase α) : BootFailure :=
  match (p.course g).2 with
  | some (.error reason) => .phaseFailed p.name reason
  | _ => .phaseTimedOut p.name p.limit

def resources (p : Phase α) : List (Resource (Action α)) := handedOver p.limit.millis p.body

theorem inTime_iff {g : Regime} {p : Phase α} :
    p.InTime g ↔ ∃ v, (p.course g).2 = some (.ok v) := by
  constructor
  · rintro ⟨d, v, hcourse, hle⟩
    refine ⟨v, ?_⟩
    rw [course, hcourse, Course.cutOff, if_pos hle]
  · rintro ⟨v, hv⟩
    rcases Course.cutOff_cases p.limit.millis (actionsCourse g p.body .nothing) with
      hcut | ⟨d, r, hcourse, hle, hcut⟩
    · rw [course, hcut] at hv
      cases hv
    · rw [course, hcut] at hv
      cases hv
      exact ⟨d, v, hcourse, hle⟩

instance (g : Regime) (p : Phase α) : Decidable (p.InTime g) :=
  decidable_of_iff ((p.course g).2.map Except.toBool = some true) <| by
    rw [inTime_iff]
    rcases (p.course g).2 with _ | _ | v <;> simp [Except.toBool]

end Phase

def phasesTime (g : Regime) (phases : List (Phase α)) : Nat := (phases.map (Phase.time g)).sum

/-- What is noted down about phases that are in time, the first of which begins at `t`. -/
def phaseLog (g : Regime) (t : Nat) : List (Phase α) → List (Nat × Note)
  | [] => []
  | p :: rest =>
    (t, .phaseBegun p.name) :: (t + p.time g, .phaseDone p.name) :: phaseLog g (t + p.time g) rest

theorem phasesTime_concat (g : Regime) (l : List (Phase α)) (p : Phase α) :
    phasesTime g (l ++ [p]) = phasesTime g l + p.time g := by
  simp [phasesTime]

theorem phaseLog_concat (g : Regime) (t : Nat) (l : List (Phase α)) (p : Phase α) :
    phaseLog g t (l ++ [p]) = phaseLog g t l ++ [(t + phasesTime g l, .phaseBegun p.name),
      (t + phasesTime g (l ++ [p]), .phaseDone p.name)] := by
  induction l generalizing t with
  | nil => simp [phaseLog, phasesTime]
  | cons q l ih =>
    rw [List.cons_append, phaseLog, ih, phaseLog]
    simp [phasesTime, Nat.add_assoc]

/-! ## A world that boots -/

/-- A world to which these resources were handed over by phases, of which this was noted down. -/
structure World.Booting (closeTimeout : Duration) (rs : List (Resource (Action α)))
    (log : List (Nat × Note)) (w : World α) : Prop where
  holds : w.Holds closeTimeout rs
  threads : w.threads = []
  phases : w.phases = log

namespace World.Booting

variable {closeTimeout : Duration} {rs : List (Resource (Action α))} {log : List (Nat × Note)}
variable {w w' : World α}

theorem register (h : w.Booting closeTimeout rs log) (r : Resource (Action α)) :
    (w.register r).1.Booting closeTimeout (rs ++ [r]) log := by
  refine ⟨h.holds.register r, ?_, ?_⟩
  · rw [World.register_of_accepting h.holds.accepting]
    exact h.threads
  · rw [World.register_of_accepting h.holds.accepting, ← h.phases]
    simp [World.phases, Note.isPhase]

theorem note_phase (h : w.Booting closeTimeout rs log) {n : Note} (hn : n.isPhase)
    (hnone : n.accepted? = none) : (w.note n).Booting closeTimeout rs (log ++ [(w.now, n)]) := by
  obtain ⟨holds, hthreads, hphases⟩ := h
  refine ⟨⟨holds.closeTimeout, holds.accepting, holds.report, holds.issued, holds.entries, ?_,
    holds.history⟩, hthreads, ?_⟩
  · rw [← holds.accepted, World.accepted, World.note, Note.pick_append]
    simp [Note.pick, hnone, World.accepted]
  · rw [← hphases]
    simp [World.phases, World.note, hn]

theorem of_aside (h : w.Booting closeTimeout rs log) {state : State} {l : List (Nat × Note)}
    (hcoordinator : w'.coordinator = { w.coordinator with state })
    (hthreads : w'.threads = w.threads) (hhistory : w'.history = w.history)
    (hnotes : w'.notes = w.notes ++ l) (hl : ∀ x ∈ l, x.2.isAside) :
    w'.Booting closeTimeout rs log := by
  obtain ⟨holds, hnone, hphases⟩ := h
  refine ⟨⟨?_, ?_, ?_, ?_, ?_, (World.accepted_of_aside hnotes hl).trans holds.accepted,
    hhistory.trans holds.history⟩, hthreads.trans hnone,
    (World.phases_of_aside hnotes hl).trans hphases⟩
  · rw [hcoordinator, ← holds.closeTimeout]
  · rw [hcoordinator, ← holds.accepting]
  · rw [hcoordinator, ← holds.report]
  · rw [hcoordinator, ← holds.issued]
  · rw [hcoordinator, ← holds.entries]

theorem giveUp (h : w.Booting closeTimeout rs log) (l : List (Closing Unit)) :
    (w.giveUp l).Booting closeTimeout rs log :=
  h.of_aside rfl rfl rfl rfl (by simp [Note.isAside])

theorem error (h : w.Booting closeTimeout rs log) (message : String)
    (fields : List (String × String)) : (w.error message fields).Booting closeTimeout rs log :=
  h.of_aside (l := []) rfl rfl rfl (List.append_nil _).symm (by simp)

theorem becomeFailed (h : w.Booting closeTimeout rs log) :
    w.becomeFailed.1.Booting closeTimeout rs log := by
  simp only [World.becomeFailed, World.leaveBootstrap, Coordinator.leaveBootstrap]
  by_cases hstate : w.coordinator.state = .bootstrapping
  · rw [if_pos hstate]
    exact h.of_aside rfl rfl rfl rfl (by simp [Note.isAside])
  · rw [if_neg hstate]
    exact h

end World.Booting

/-! ## Within a phase -/

variable {closeTimeout : Duration} {pre : List (Phase α)} {p : Phase α} {due : Nat}
variable {job : Work α} {w w' : World α}

/-- What is noted down when the phases `pre` are complete and `p` has begun. -/
def logWithin (g : Regime) (pre : List (Phase α)) (p : Phase α) : List (Nat × Note) :=
  phaseLog g 0 pre ++ [(phasesTime g pre, .phaseBegun p.name)]

/-- Phases `pre` are complete. -/
structure World.After (closeTimeout : Duration) (pre : List (Phase α)) (w : World α) : Prop where
  booting : w.Booting closeTimeout (pre.flatMap Phase.resources)
    (phaseLog ⟨closeTimeout, true⟩ 0 pre)
  now : w.now = phasesTime ⟨closeTimeout, true⟩ pre

/-- After the phases `pre` the body of `p` is under way, and is cut off at `due`. -/
structure World.Within (closeTimeout : Duration) (pre : List (Phase α)) (p : Phase α) (due : Nat)
    (job : Work α) (w : World α) : Prop where
  booting : ∃ rs, w.Booting closeTimeout rs (logWithin ⟨closeTimeout, true⟩ pre p) ∧
    rs ++ job.handsOver w.now due = (pre ++ [p]).flatMap Phase.resources
  plain : job.Plain
  now : w.now ≤ due
  ends : (job.ends ⟨closeTimeout, true⟩ w.now).cutOff due =
    (phasesTime ⟨closeTimeout, true⟩ (pre ++ [p]), (p.course ⟨closeTimeout, true⟩).2)

/-- After the phases `pre` the body of `p` has come to `result`, or was cut off. -/
structure World.Ended (closeTimeout : Duration) (pre : List (Phase α)) (p : Phase α)
    (result : Option (Except String (Value α))) (w : World α) : Prop where
  booting : w.Booting closeTimeout ((pre ++ [p]).flatMap Phase.resources)
    (logWithin ⟨closeTimeout, true⟩ pre p)
  now : w.now = phasesTime ⟨closeTimeout, true⟩ (pre ++ [p])
  result : (p.course ⟨closeTimeout, true⟩).2 = result

theorem World.After.begin (h : w.After closeTimeout pre) (hplain : ∀ a ∈ p.body, a.isPlain) :
    (w.note (.phaseBegun p.name)).Within closeTimeout pre p (w.dueIn p.limit)
      (.ofActions p.body) := by
  have hwait : w.dueIn p.limit - w.now = p.limit.millis := Nat.add_sub_cancel_left _ _
  have hbegun := h.booting.note_phase (n := .phaseBegun p.name) rfl rfl
  rw [h.now] at hbegun
  refine ⟨⟨_, hbegun, ?_⟩, .running _ _ hplain, Nat.le_add_right _ _, ?_⟩
  · change _ ++ handedOver (w.dueIn p.limit - w.now) p.body = _
    rw [hwait, List.flatMap_append, List.flatMap_singleton, Phase.resources]
  · rw [Work.ofActions, Work.ends_none, phasesTime_concat, ← h.now]
    exact Course.cutOff_delay _ _ _

/-- **A step of the body goes on with it or ends it, as its course says.** -/
theorem World.Within.step (h : w.Within closeTimeout pre p due job) {next : Stepped α}
    (hstep : job.step w = some (w', next)) :
    (∃ job', next = .inl job' ∧ w'.Within closeTimeout pre p due job') ∨
      ∃ result, next = .inr result ∧ w'.Ended closeTimeout pre p (some result) := by
  obtain ⟨rs, hbooting, hrs⟩ := h.booting
  have hends := Work.step_ends hbooting.holds.under hstep
  have hcourse := h.ends
  cases h.plain.step hbooting.holds.accepting h.now hstep with
  | @on job' hplain hsame =>
    refine .inl ⟨job', rfl, ⟨rs, hbooting, hsame ▸ hrs⟩, hplain, h.now, ?_⟩
    rw [← hcourse, ← hends]
    rfl
  | @handed job' hplain r hfirst =>
    have hnow : (w.register r).1.now = w.now := by
      rw [World.register_of_accepting hbooting.holds.accepting]
    refine .inl ⟨job', rfl, ⟨rs ++ [r], hbooting.register r, ?_⟩, hplain, hnow ▸ h.now, ?_⟩
    · rw [hnow, ← hrs, hfirst, List.append_assoc, List.singleton_append]
    · rw [hnow, ← hcourse, ← hends]
      rfl
  | @done result hnone =>
    rw [← hends, Stepped.ends, Course.cutOff, if_pos h.now] at hcourse
    obtain ⟨hnow, hresult⟩ := Prod.mk.inj hcourse
    rw [hnone, List.append_nil] at hrs
    exact .inr ⟨result, rfl, hrs ▸ hbooting, hnow, hresult.symm⟩

theorem World.Within.cutOff (h : w.Within closeTimeout pre p due job) (hstep : job.step w = none)
    (hdue : due ≤ w.now) : w.Ended closeTimeout pre p none := by
  obtain ⟨rs, hbooting, hrs⟩ := h.booting
  have hcourse := Work.cutOff_of_due (g := ⟨closeTimeout, true⟩) hstep hdue
  rw [Nat.max_eq_right h.now, h.ends] at hcourse
  obtain ⟨htime, hresult⟩ := Prod.mk.inj hcourse
  rw [h.plain.handsOver_eq_nil hstep hdue, List.append_nil] at hrs
  exact ⟨hrs ▸ hbooting, htime.symm, hresult⟩

theorem World.Within.at (h : w.Within closeTimeout pre p due job) (hstep : job.step w = none)
    {t : Nat} (hnow : w.now ≤ t) (hlimit : t ≤ due)
    (hdue : ∀ d, job.nextDue w.now = some d → t ≤ d) :
    (w.at t).Within closeTimeout pre p due job := by
  obtain ⟨rs, ⟨holds, hthreads, hphases⟩, hrs⟩ := h.booting
  refine ⟨⟨rs, ⟨⟨holds.closeTimeout, holds.accepting, holds.report, holds.issued, holds.entries,
    holds.accepted, holds.history⟩, hthreads, hphases⟩, ?_⟩, h.plain, hlimit, ?_⟩
  · change rs ++ job.handsOver t due = _
    rw [h.plain.handsOver_at hstep hdue, hrs]
  · change (job.ends _ t).cutOff due = _
    rw [Work.ends_at hnow hstep hdue, h.ends]

theorem World.Ended.done {v : Value α} (h : w.Ended closeTimeout pre p (some (.ok v))) :
    (w.note (.phaseDone p.name)).After closeTimeout (pre ++ [p]) := by
  refine ⟨?_, h.now⟩
  have hdone := h.booting.note_phase (n := .phaseDone p.name) rfl rfl
  rw [h.now, logWithin, List.append_assoc] at hdone
  rw [phaseLog_concat, Nat.zero_add, Nat.zero_add]
  exact hdone

/-! ## The abort -/

/-- What phase `p` and the phases `pre` before it handed over. -/
def handedOverUntil (pre : List (Phase α)) (p : Phase α) : List (Resource (Action α)) :=
  (pre ++ [p]).flatMap Phase.resources

/-- The bootstrap was aborted in phase `p`, and the pass over what was handed over is thread `0`. -/
structure World.Aborted (closeTimeout : Duration) (pre : List (Phase α)) (p : Phase α)
    (w : World α) : Prop where
  passing : w.Passing ⟨closeTimeout, false⟩ (handedOverUntil pre p).length .fatalBootstrap
    (phasesTime ⟨closeTimeout, true⟩ (pre ++ [p]))
    (closingOrder (entriesOf (handedOverUntil pre p))) 0
  phases : w.phases = logWithin ⟨closeTimeout, true⟩ pre p
  accepted : w.accepted = List.range (handedOverUntil pre p).length

theorem World.trigger_notes (w : World α) (cause : Cause) :
    ∃ l, (w.trigger cause).notes = w.notes ++ l ∧ ∀ x ∈ l, x.2.isAside := by
  cases hacc : w.coordinator.accepting with
  | true =>
    refine ⟨[(w.now, .trigger cause), (w.now, .state .shuttingDown)], ?_, by simp [Note.isAside]⟩
    simp [World.trigger, World.note, Coordinator.drain, hacc, World.spawn]
  | false =>
    refine ⟨[(w.now, .trigger cause)], ?_, by simp [Note.isAside]⟩
    simp [World.trigger, World.note, Coordinator.drain, hacc]

theorem World.Ended.abort {result : Option (Except String (Value α))}
    (h : w.Ended closeTimeout pre p result) (b : Bootstrap α) (e : BootFailure) :
    (b.abort w e).1.Aborted closeTimeout pre p := by
  have hfailed := (h.booting.error "Startup failed, tearing down"
    [("phase", e.phase), ("error", e.message)]).becomeFailed
  generalize hw : (w.error "Startup failed, tearing down"
    [("phase", e.phase), ("error", e.message)]).becomeFailed.1 = w₁ at hfailed
  have hworld : (b.abort w e).1 = w₁.trigger .fatalBootstrap := by rw [← hw, Bootstrap.abort]
  have hnow : w₁.now = phasesTime ⟨closeTimeout, true⟩ (pre ++ [p]) := by
    rw [← hw, World.becomeFailed, (World.leaveBootstrap_eq _ _).1]
    exact h.now
  have hpassing := hfailed.holds.trigger (by rw [hfailed.threads]; simp) .fatalBootstrap
  rw [hfailed.threads, hnow] at hpassing
  obtain ⟨l, hl, haside⟩ := w₁.trigger_notes .fatalBootstrap
  rw [hworld]
  exact ⟨hpassing, (World.phases_of_aside hl haside).trans hfailed.phases,
    (World.accepted_of_aside hl haside).trans hfailed.holds.accepted⟩

theorem World.Aborted.beside (h : w.Aborted closeTimeout pre p)
    (hbeside : w.Beside (handedOverUntil pre p).length w') : w'.Aborted closeTimeout pre p :=
  ⟨h.passing.beside hbeside, hbeside.phases.trans h.phases, hbeside.accepted.trans h.accepted⟩

theorem World.Aborted.step (h : w.Aborted closeTimeout pre p) (hstep : w.step = some w') :
    w'.Aborted closeTimeout pre p := by
  obtain ⟨hphases, haccepted⟩ := World.step_log h.passing.accepting hstep
  exact ⟨h.passing.step hstep, hphases.trans h.phases, haccepted.trans h.accepted⟩

theorem World.Beside.of_errors {n : Nat} (w : World α) (errors : List CloseFailure)
    (message : String) (fields : CloseFailure → List (String × String)) :
    w.Beside n (errors.foldl (fun w failure => w.error message (fields failure)) w) := by
  induction errors generalizing w with
  | nil => exact .refl w
  | cons e rest ih => exact (World.Beside.of_journal _).trans (ih _)

/-! ## The run -/

namespace Session

variable {phases : List (Phase α)}

/-- How far the run of the phases is. -/
inductive Booting (closeTimeout : Duration) (phases : List (Phase α)) : Session α → Waiting α → Prop
  | between {s : Session α} {value : Value α} (pre rest : List (Phase α))
      (hphases : phases = pre ++ rest) (hintime : ∀ q ∈ pre, q.InTime ⟨closeTimeout, true⟩)
      (h : s.world.After closeTimeout pre) :
      Booting closeTimeout phases s
        (.bootstrap false ⟨.between, rest, false, pre.map Phase.name, value⟩)
  | within {s : Session α} {value : Value α} (pre : List (Phase α)) (p : Phase α)
      (rest : List (Phase α)) (due : Nat) (job : Work α) (hphases : phases = pre ++ p :: rest)
      (hintime : ∀ q ∈ pre, q.InTime ⟨closeTimeout, true⟩)
      (h : s.world.Within closeTimeout pre p due job) :
      Booting closeTimeout phases s
        (.bootstrap false ⟨.body p.name p.limit due job, rest, false, pre.map Phase.name, value⟩)
  | tearingDown {s : Session α} {b : Bootstrap α} (pre : List (Phase α)) (p : Phase α)
      (rest : List (Phase α)) (hphases : phases = pre ++ p :: rest)
      (hintime : ∀ q ∈ pre, q.InTime ⟨closeTimeout, true⟩) (hlate : ¬ p.InTime ⟨closeTimeout, true⟩)
      (hb : b.stand = .tearingDown (p.failure ⟨closeTimeout, true⟩))
      (h : s.world.Aborted closeTimeout pre p) :
      Booting closeTimeout phases s (.bootstrap false b)
  | ran {s : Session α} (hintime : ∀ q ∈ phases, q.InTime ⟨closeTimeout, true⟩)
      (hthreads : s.world.threads = []) :
      Booting closeTimeout phases s (.answered (.ran (phases.map Phase.name)))
  | failed {s : Session α} (pre : List (Phase α)) (p : Phase α) (rest : List (Phase α))
      (hphases : phases = pre ++ p :: rest) (hintime : ∀ q ∈ pre, q.InTime ⟨closeTimeout, true⟩)
      (hlate : ¬ p.InTime ⟨closeTimeout, true⟩) (h : s.world.Aborted closeTimeout pre p)
      (hfinished : s.world.threads[0]? = some .finished) :
      Booting closeTimeout phases s
        (.answered (.bootstrapError (p.failure ⟨closeTimeout, true⟩)))

/-- **A step of the bootstrap within a phase goes on with it, completes it or aborts.** -/
theorem step_within {b : Bootstrap α} (h : w.Within closeTimeout pre p due job)
    (hb : b.stand = .body p.name p.limit due job) {next : Bootstrap α ⊕ Bootstrap.Result α}
    (hstep : b.step w = some (w', next)) :
    (∃ job', next = .inl { b with stand := .body p.name p.limit due job' } ∧
        w'.Within closeTimeout pre p due job') ∨
      (∃ value, next = .inl { b with
          stand := .between
          completed := b.completed ++ [p.name]
          value } ∧
        p.InTime ⟨closeTimeout, true⟩ ∧ w'.After closeTimeout (pre ++ [p])) ∨
      ∃ b', next = .inl b' ∧ ¬ p.InTime ⟨closeTimeout, true⟩ ∧
        b'.stand = .tearingDown (p.failure ⟨closeTimeout, true⟩) ∧
        w'.Aborted closeTimeout pre p := by
  simp only [Bootstrap.step, hb] at hstep
  split at hstep
  · case h_1 w₁ job' hjob =>
    cases hstep
    rcases h.step hjob with ⟨job'', hsame, h'⟩ | ⟨result, hnone, -⟩
    · cases hsame
      exact .inl ⟨job', rfl, h'⟩
    · cases hnone
  · case h_2 w₁ value hjob =>
    cases hstep
    rcases h.step hjob with ⟨job', hnone, -⟩ | ⟨result, hsame, h'⟩
    · cases hnone
    · cases hsame
      exact .inr (.inl ⟨value, rfl, Phase.inTime_iff.mpr ⟨value, h'.result⟩, h'.done⟩)
  · case h_3 w₁ reason hjob =>
    cases hstep
    rcases h.step hjob with ⟨job', hnone, -⟩ | ⟨result, hsame, h'⟩
    · cases hnone
    · cases hsame
      refine .inr (.inr ⟨_, rfl, ?_, ?_, h'.abort b _⟩)
      · rw [Phase.inTime_iff, h'.result]
        rintro ⟨v, hv⟩
        cases hv
      · rw [Phase.failure, h'.result, Bootstrap.abort]
  · case h_4 hjob =>
    split at hstep
    · case isTrue hdue =>
      cases hstep
      have h' := h.cutOff hjob hdue
      have hleft : (w.giveUp job.refusals).Ended closeTimeout pre p none :=
        ⟨h'.booting.giveUp _, h'.now, h'.result⟩
      refine .inr (.inr ⟨_, rfl, ?_, ?_, hleft.abort b _⟩)
      · rw [Phase.inTime_iff, h'.result]
        rintro ⟨v, hv⟩
        cases hv
      · rw [Phase.failure, h'.result, Bootstrap.abort]
    · cases hstep

theorem step_within_eq_none {b : Bootstrap α} (hb : b.stand = .body p.name p.limit due job)
    (hstep : b.step w = none) : job.step w = none ∧ w.now < due := by
  simp only [Bootstrap.step, hb] at hstep
  split at hstep
  · cases hstep
  · cases hstep
  · cases hstep
  · case h_4 hjob =>
    split at hstep
    · cases hstep
    · case isFalse hnot => exact ⟨hjob, Nat.lt_of_not_le hnot⟩

theorem step_tearingDown {b : Bootstrap α} {e : BootFailure} (hb : b.stand = .tearingDown e)
    {next : Bootstrap α ⊕ Bootstrap.Result α} (hstep : b.step w = some (w', next)) (n : Nat) :
    w.coordinator.report.isSome ∧ next = .inr ⟨true, .error e⟩ ∧ w.Beside n w' := by
  simp only [Bootstrap.step, hb] at hstep
  split at hstep
  · case h_1 r hr =>
    cases hstep
    have hreturned : w.Beside n (w.note (.returned r)) := .of_notes (by simp [Note.isAside])
    exact ⟨by rw [hr]; rfl, rfl, hreturned.trans (.of_errors _ r.errors _ _)⟩
  · cases hstep

theorem Booting.request (hplain : ∀ p ∈ phases, ∀ a ∈ p.body, a.isPlain) {s s' : Session α}
    {r r' : Waiting α} (h : Booting closeTimeout phases s r) (hstep : r.step s = some (s', r')) :
    Booting closeTimeout phases s' r' := by
  cases h with
  | between pre rest hphases hintime hs =>
    cases rest with
    | nil =>
      rw [List.append_nil] at hphases
      subst hphases
      cases hstep
      exact .ran hintime hs.booting.threads
    | cons p rest =>
      have hmem : p ∈ phases := hphases ▸ List.mem_append_cons_self
      cases hstep
      exact .within pre p rest _ _ hphases hintime (hs.begin (hplain p hmem))
  | within pre p rest due job hphases hintime hs =>
    cases Waiting.step_steps hstep with
    | boot hb =>
      rcases step_within hs rfl hb with ⟨job', hsame, h'⟩ | ⟨v, hsame, hin, h'⟩ |
        ⟨b', hsame, hlate, hstand, h'⟩
      · cases hsame
        exact .within pre p rest due job' hphases hintime h'
      · cases hsame
        have hnames : pre.map Phase.name ++ [p.name] = (pre ++ [p]).map Phase.name := by simp
        rw [hnames]
        refine .between (pre ++ [p]) rest (by simp [hphases]) (fun q hq => ?_) h'
        rcases List.mem_append.mp hq with hq | hq
        · exact hintime q hq
        · cases List.mem_singleton.mp hq
          exact hin
      · cases hsame
        exact .tearingDown pre p rest hphases hintime hlate hstand h'
    | booted hb =>
      rcases step_within hs rfl hb with ⟨job', hnone, -⟩ | ⟨v, hnone, -⟩ | ⟨b', hnone, -⟩ <;>
        cases hnone
  | tearingDown pre p rest hphases hintime hlate hstand hs =>
    cases Waiting.step_steps hstep with
    | boot hb =>
      obtain ⟨-, hnone, -⟩ := step_tearingDown hstand hb 0
      cases hnone
    | booted hb =>
      obtain ⟨hreport, hsame, hbeside⟩ := step_tearingDown hstand hb (handedOverUntil pre p).length
      cases hsame
      obtain ⟨r, hr⟩ := Option.isSome_iff_exists.mp hreport
      exact .failed pre p rest hphases hintime hlate (hs.beside hbeside)
        (hbeside.getElem?_threads (hs.passing.finished_of_report hr))
  | ran => cases hstep
  | failed => cases hstep

theorem Booting.thread {s : Session α} {r : Waiting α} (h : Booting closeTimeout phases s r)
    {world : World α} (hworld : s.world.step = some world) (hr : r.step s = none) :
    Booting closeTimeout phases { s with world } r := by
  have hnone : s.world.threads = [] → s.world.step = none := by
    intro hthreads
    rw [World.step, hthreads]
    rfl
  cases h with
  | between pre rest hphases hintime hs =>
    rw [hnone hs.booting.threads] at hworld
    cases hworld
  | within pre p rest due job hphases hintime hs =>
    obtain ⟨rs, hbooting, -⟩ := hs.booting
    rw [hnone hbooting.threads] at hworld
    cases hworld
  | tearingDown pre p rest hphases hintime hlate hstand hs =>
    exact .tearingDown pre p rest hphases hintime hlate hstand (hs.step hworld)
  | ran hintime hthreads =>
    rw [hnone hthreads] at hworld
    cases hworld
  | failed pre p rest hphases hintime hlate hs hfinished =>
    exact .failed pre p rest hphases hintime hlate (hs.step hworld)
      (World.step_finished hworld hfinished)

theorem step_bootstrap_eq_none {s : Session α} {b : Bootstrap α} {single : Bool}
    (h : (Waiting.bootstrap single b).step s = none) : b.step s.world = none := by
  simp only [Waiting.step] at h
  split at h
  · cases h
  · cases h
  · case h_3 hb => exact hb

theorem report_eq_none_of_tearingDown {b : Bootstrap α} {e : BootFailure}
    (hb : b.stand = .tearingDown e) (hstep : b.step w = none) : w.coordinator.report = none := by
  simp only [Bootstrap.step, hb] at hstep
  split at hstep
  · cases hstep
  · case h_2 hreport => exact hreport

theorem Booting.clock {s : Session α} {r : Waiting α} {t : Nat}
    (h : Booting closeTimeout phases s r) (hr : ∀ reply, r ≠ .answered reply)
    (hstep : s.step r = none) (hdue : s.nextDue r = some t) :
    Booting closeTimeout phases (s.at t) r := by
  obtain ⟨hrequest, hworld⟩ := step_eq_none hstep
  cases h with
  | between pre rest hphases hintime hs => cases rest <;> cases hrequest
  | @within value pre p rest due job hphases hintime hs =>
    obtain ⟨hjob, hlt⟩ := step_within_eq_none (p := p) rfl (step_bootstrap_eq_none hrequest)
    obtain ⟨hcut, hinner⟩ := le_of_le_earlier (nextDue_le hdue).1
    have hnow : s.world.now ≤ t := by
      rcases earlier_eq_some hdue with hdue | hdue
      · rcases earlier_eq_some hdue with hdue | hdue
        · exact Nat.le_of_lt (lt_of_after_eq_some hdue)
        · exact Nat.le_of_lt (Work.lt_nextDue hdue)
      · exact Nat.le_of_lt (World.lt_nextDue hdue)
    exact .within pre p rest due job hphases hintime
      (hs.at hjob hnow (hcut due (after_of_lt hlt)) hinner)
  | @tearingDown b pre p rest hphases hintime hlate hstand hs =>
    have hreport := report_eq_none_of_tearingDown hstand (step_bootstrap_eq_none hrequest)
    have hwait : (Waiting.bootstrap false b).nextDue s.now = none := by
      simp [Waiting.nextDue, Bootstrap.nextDue, hstand]
    have hnext : s.world.nextDue = some t := by
      rw [Session.nextDue, hwait] at hdue
      exact hdue
    have hpassing := hs.passing.at hworld hreport (Nat.le_of_lt (World.lt_nextDue hnext))
      (nextDue_le hdue).2
    exact .tearingDown pre p rest hphases hintime hlate hstand
      ⟨hpassing, hs.phases, hs.accepted⟩
  | ran => exact absurd rfl (hr _)
  | failed => exact absurd rfl (hr _)

theorem Booting.goes (hplain : ∀ p ∈ phases, ∀ a ∈ p.body, a.isPlain)
    {a b : Session α × Waiting α} (h : Goes a b) (ha : Booting closeTimeout phases a.1 a.2) :
    Booting closeTimeout phases b.1 b.2 := by
  cases h with
  | @step s s' r r' h =>
    unfold Session.step at h
    split at h
    · case h_1 next hnext =>
      cases h
      exact ha.request hplain hnext
    · case h_2 hrequest =>
      obtain ⟨world, hworld, hsame⟩ := Option.map_eq_some_iff.mp h
      cases hsame
      exact ha.thread hworld hrequest
  | clock hr hstep hdue => exact ha.clock hr hstep hdue

theorem Booting.answered {s : Session α} {r : Waiting α} (h : Booting closeTimeout phases s r)
    (hsettled : s.Settled r) : ∃ reply, r = .answered reply := by
  rcases hsettled.2 with hanswered | hdue
  · exact hanswered
  · obtain ⟨hrequest, hworld⟩ := step_eq_none hsettled.1
    obtain ⟨hwait, hthreads⟩ := earlier_eq_none_iff.mp hdue
    cases h with
    | between pre rest hphases hintime hs => cases rest <;> cases hrequest
    | @within value pre p rest due job hphases hintime hs =>
      -- the body is cut off at its limit, so it is due
      obtain ⟨hjob, hlt⟩ := step_within_eq_none (p := p) rfl (step_bootstrap_eq_none hrequest)
      obtain ⟨hcut, -⟩ := earlier_eq_none_iff.mp hwait
      have hlate : after s.now due = some due := after_of_lt hlt
      rw [hcut] at hlate
      cases hlate
    | tearingDown pre p rest hphases hintime hlate hstand hs =>
      have hreport := report_eq_none_of_tearingDown hstand (step_bootstrap_eq_none hrequest)
      obtain ⟨d, hd⟩ := hs.passing.nextDue hworld hreport
      rw [hthreads] at hd
      cases hd
    | ran => exact ⟨_, rfl⟩
    | failed => exact ⟨_, rfl⟩

/-- A list has only one first element without a property. -/
theorem first_unique {β : Type} {P : β → Prop} {l l' r r' : List β} {x x' : β}
    (h : l ++ x :: r = l' ++ x' :: r') (hl : ∀ y ∈ l, P y) (hx : ¬ P x) (hl' : ∀ y ∈ l', P y)
    (hx' : ¬ P x') : l = l' ∧ x = x' := by
  induction l generalizing l' with
  | nil =>
    cases l' with
    | nil =>
      cases h
      exact ⟨rfl, rfl⟩
    | cons y l' =>
      cases h
      exact absurd (hl' _ List.mem_cons_self) hx
  | cons y l ih =>
    cases l' with
    | nil =>
      cases h
      exact absurd (hl _ List.mem_cons_self) hx'
    | cons y' l' =>
      obtain ⟨rfl, hrest⟩ := List.cons.inj h
      obtain ⟨rfl, hsame⟩ := ih hrest (fun z hz => hl z (List.mem_cons_of_mem y hz))
        (fun z hz => hl' z (List.mem_cons_of_mem y hz))
      exact ⟨rfl, hsame⟩

structure CameBack (closeTimeout : Duration) (pre : List (Phase α)) (p : Phase α)
    (s : Session α) : Prop where
  state : s.world.coordinator.state = .stopped
  cause : ∃ r, s.world.coordinator.report = some r ∧ r.cause = .fatalBootstrap
  /-- The phases until `p` have begun one after the other, and no other has. -/
  phases : s.world.phases = logWithin ⟨closeTimeout, true⟩ pre p
  /-- Just this was handed over, the first one with ticket `0`. -/
  accepted : s.world.accepted = List.range (handedOverUntil pre p).length
  /-- Each of these was closed once, not before `p` had ended, and the close is over. -/
  closed : ∀ i r, (handedOverUntil pre p)[i]? = some r → ∃ t,
    phasesTime ⟨closeTimeout, true⟩ (pre ++ [p]) ≤ t ∧
    t + (resourceCourse ⟨closeTimeout, false⟩ r).1 ≤ s.now ∧
    (s.world.begun (handedOverUntil pre p).length).filter (·.2.1 = i) = [(t, i, r.name)]

theorem cameBack {s : Session α} (h : s.world.Aborted closeTimeout pre p)
    (hfinished : s.world.threads[0]? = some .finished) : s.CameBack closeTimeout pre p := by
  obtain ⟨hreport, hstate, hnow, -, hbegun, -⟩ := h.passing.of_finished hfinished
  refine ⟨hstate, ⟨_, hreport, rfl⟩, h.phases, h.accepted, fun i r hr => ?_⟩
  have hmem : (⟨i, r⟩ : Entry α) ∈ closingOrder (entriesOf (handedOverUntil pre p)) := by
    rw [(closingOrder_perm _).mem_iff]
    exact mem_entriesOf hr
  obtain ⟨t, ht, hle, hfilter⟩ := begins_filter ⟨closeTimeout, false⟩
    (phasesTime ⟨closeTimeout, true⟩ (pre ++ [p])) (closingOrder_tickets_ne _) hmem
  rw [Entry.time_eq, ← hnow] at hle
  rw [← hbegun] at hfilter
  exact ⟨t, ht, hle, hfilter⟩

/-- **The first phase that is not in time aborts the bootstrap, and the run of the phases comes back
when everything handed over until then is closed.** -/
theorem run_aborts_at_first_failure (closeTimeout : Duration) (phases : List (Phase α))
    (hplain : ∀ p ∈ phases, ∀ a ∈ p.body, a.isPlain) :
    let g : Regime := ⟨closeTimeout, true⟩
    ∃ s reply, (start closeTimeout).perform (.run phases) = (s, reply) ∧
      (reply = .ran (phases.map Phase.name) ↔ ∀ p ∈ phases, p.InTime g) ∧
      ∀ pre p rest, phases = pre ++ p :: rest → (∀ q ∈ pre, q.InTime g) → ¬ p.InTime g →
        reply = .bootstrapError (p.failure g) ∧ s.CameBack closeTimeout pre p := by
  intro g
  have hbegin : Booting closeTimeout phases (start closeTimeout)
      (.bootstrap false ⟨.between, phases, false, [], .nothing⟩) := by
    have hholds := (holds_start (α := α) closeTimeout).world
    exact .between [] phases rfl (by simp) ⟨⟨hholds, rfl, rfl⟩, rfl⟩
  obtain ⟨s, reply, hperform, hs, -⟩ := perform_keeps (J := Booting closeTimeout phases)
    (start closeTimeout) (.run phases) hbegin (Booting.goes hplain) Booting.answered
  refine ⟨s, reply, hperform, ?_⟩
  cases hs with
  | ran hintime =>
    refine ⟨⟨fun _ => hintime, fun _ => rfl⟩, fun pre p rest hphases _ hlate => ?_⟩
    have hmem : p ∈ phases := hphases ▸ List.mem_append_cons_self
    exact absurd (hintime p hmem) hlate
  | failed pre p rest hphases hintime hlate hs hfinished =>
    have hmem : p ∈ phases := hphases ▸ List.mem_append_cons_self
    refine ⟨⟨fun hreply => ?_, fun hall => absurd (hall p hmem) hlate⟩,
      fun pre' p' rest' hphases' hintime' hlate' => ?_⟩
    · cases hreply
    · obtain ⟨rfl, rfl⟩ := first_unique (hphases.symm.trans hphases') hintime hlate hintime' hlate'
      exact ⟨rfl, cameBack hs hfinished⟩

/-- A phase that sleeps past its limit: what the phase before it handed over is closed. -/
theorem run_aborts_at_timeout :
    let storage : Phase Unit := ⟨"storage", .ofSecs 1, [.register ⟨"pool", .infrastructure, []⟩]⟩
    let workers : Phase Unit := ⟨"workers", .ofMillis 5, [.sleep (.ofMillis 10)]⟩
    (∀ p ∈ [storage, workers], ∀ a ∈ p.body, a.isPlain) ∧
      ∃ s, (start (.ofSecs 1)).perform (.run [storage, workers]) =
          (s, .bootstrapError (.phaseTimedOut "workers" (.ofMillis 5))) ∧
        s.world.coordinator.state = .stopped ∧ s.world.accepted = [0] ∧
        ∃ t, 5 ≤ t ∧ t ≤ s.now ∧ (s.world.begun 1).filter (·.2.1 = 0) = [(t, 0, "pool")] := by
  intro storage workers
  have hplain : ∀ p ∈ [storage, workers], ∀ a ∈ p.body, a.isPlain := by decide
  have hstorage : storage.course ⟨.ofSecs 1, true⟩ = (0, some (.ok .nothing)) := by
    simp [storage, Phase.course, actionsCourse, Action.course, Course.andThen, Course.delay,
      Course.cutOff]
  have hworkers : workers.course ⟨.ofSecs 1, true⟩ = (5, none) := by
    simp [workers, Phase.course, actionsCourse, Action.course, Course.andThen, Course.delay,
      Course.cutOff]
  have hintime : storage.InTime ⟨.ofSecs 1, true⟩ :=
    Phase.inTime_iff.mpr ⟨.nothing, congrArg Prod.snd hstorage⟩
  have hlate : ¬ workers.InTime ⟨.ofSecs 1, true⟩ := by
    rw [Phase.inTime_iff, hworkers]
    rintro ⟨v, hv⟩
    cases hv
  obtain ⟨s, reply, hperform, -, habort⟩ := run_aborts_at_first_failure (.ofSecs 1) _ hplain
  obtain ⟨hreply, hback⟩ := habort [storage] workers [] rfl
    (List.forall_mem_singleton.mpr hintime) hlate
  rw [hreply, Phase.failure, hworkers] at hperform
  have hheld : handedOverUntil [storage] workers = [⟨"pool", .infrastructure, []⟩] := by
    simp [storage, workers, handedOverUntil, Phase.resources, handedOver]
  have htime : phasesTime ⟨.ofSecs 1, true⟩ ([storage] ++ [workers]) = 5 := by
    simp [phasesTime, Phase.time, hstorage, hworkers]
  obtain ⟨hstate, -, -, haccepted, hclosed⟩ := hback
  rw [hheld] at haccepted hclosed
  rw [htime] at hclosed
  obtain ⟨t, ht, hle, hfilter⟩ := hclosed 0 _ rfl
  exact ⟨hplain, s, hperform, hstate, haccepted, t, ht, Nat.le_of_add_right_le hle, hfilter⟩

end Session

end EventIntake.Lifecycle
