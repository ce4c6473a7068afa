import EventIntake.Proofs.Capability.Refreshing
import EventIntake.Proofs.Receiver.Degradation
import EventIntake.Proofs.Receiver.Deployment
import EventIntake.Proofs.Settings.Constraints

/-!
# The deadlines of a start

The bounds on durations are what the deadlines rest on.  With settings that are accepted no timer
has a period of zero, and a deadline with the margin added to it is no longer than a day and a
second, far from the longest duration (`Receiver.limits_le`).  So the two phases that bound their
own work have a limit that lies behind the deadline inside, and it is the deadline inside that is
told when it passes (`Settings.validation_exact`).
-/

namespace EventIntake

open Capability (Acquisition Informer Refresh)
open Lifecycle (Action Phase)

/-! ## Adding durations -/

namespace Duration

/-- The longest duration: the most whole seconds that 64 bits hold, and a nanosecond less than one
more. -/
def longest : Duration := ⟨0xFFFFFFFFFFFFFFFF * 1000000000 + 999999999⟩

/-- The sum, but never more than the longest duration. -/
def saturatingAdd (a b : Duration) : Duration := ⟨min (a.nanos + b.nanos) longest.nanos⟩

theorem saturatingAdd_eq {a b : Duration} (h : (a + b).nanos ≤ longest.nanos) :
    a.saturatingAdd b = a + b :=
  congrArg Duration.mk (Nat.min_eq_left h)

end Duration

namespace Receiver

variable {r : Receiver} {result : Except StartFailure Running}

/-! ## The limits of the phases -/

/-- The limits of the phases, when `add` gives a deadline its margin. -/
def limits (add : Duration → Duration → Duration) (s : Settings) : List Duration :=
  [s.phaseTimeout, s.phaseTimeout, s.phaseTimeout, s.phaseTimeout,
    max s.phaseTimeout (add s.startupTimeout margin), add s.wait margin, s.phaseTimeout,
    s.phaseTimeout]

theorem phases_limits (r : Receiver) : r.phases.map Phase.limit = limits (· + ·) r.settings := rfl

/-- A deadline of a day, and the margin. -/
def longestLimit : Duration := Settings.day + margin

theorem longestLimit_le : longestLimit.nanos ≤ Duration.longest.nanos := by decide

theorem add_margin_le {d : Duration} (h : d.nanos ≤ Settings.day.nanos) :
    (d + margin).nanos ≤ longestLimit.nanos :=
  Nat.add_le_add_right h _

theorem saturatingAdd_margin {d : Duration} (h : d.nanos ≤ Settings.day.nanos) :
    d.saturatingAdd margin = d + margin :=
  Duration.saturatingAdd_eq ((add_margin_le h).trans longestLimit_le)

theorem le_longestLimit {d : Duration} (h : d.nanos ≤ Settings.day.nanos) :
    d.nanos ≤ longestLimit.nanos :=
  h.trans (Nat.le_add_right _ _)

theorem limits_le {s : Settings} (hphase : s.phaseTimeout.nanos ≤ Settings.day.nanos)
    (hstartup : s.startupTimeout.nanos ≤ Settings.day.nanos)
    (hwait : s.wait.nanos ≤ Settings.day.nanos) :
    ∀ limit ∈ limits (· + ·) s, limit.nanos ≤ longestLimit.nanos := by
  have hplain := le_longestLimit hphase
  have hlisting := Duration.nanos_max_le hplain (add_margin_le hstartup)
  simp only [limits, List.forall_mem_cons]
  exact ⟨hplain, hplain, hplain, hplain, hlisting, add_margin_le hwait, hplain, hplain, nofun⟩

theorem nanos_lt_add_margin (d : Duration) : d.nanos < (d + margin).nanos :=
  Nat.lt_add_of_pos_right (by decide)

/-! ## The deployment -/

def deploying (r : Receiver) : Phase Unit :=
  ⟨"ingress-deployment", r.settings.wait + margin, r.ingressActions⟩

theorem deploying_mem (r : Receiver) : r.deploying ∈ r.phases := by
  simp [phases, steps, deploying]

def starts (r : Receiver) : Deployment.Starts :=
  (List.range (r.settings.workerCount r.host.processors)).map fun i =>
    (r.host.starts i, r.ingressWorker i)

theorem workers_starts (r : Receiver) : Deployment.workers r.starts = r.workers := by
  rw [Deployment.workers, starts, List.map_map]
  rfl

theorem deploying_eq {server : Ingress.Server} (h : r.server = .ok server) :
    r.deploying = Deployment.phase "ingress-deployment" (r.settings.wait + margin) r.settings.wait
      r.starts := by
  rw [deploying, Deployment.phase, workers_starts, ingressActions, h]
  rfl

theorem deploying_course {server : Ingress.Server} (h : r.server = .ok server) :
    (r.deploying.course r.regime).2 = some (Deployment.verdict r.settings.wait r.starts) := by
  have hmillis : r.settings.wait.millis ≤ (r.settings.wait + margin).millis :=
    Duration.millis_mono (Nat.le_of_lt (nanos_lt_add_margin _))
  rw [deploying_eq h]
  exact congrArg Prod.snd (Deployment.course_phase rfl _ hmillis)

theorem deploying_late {server : Ingress.Server} (h : r.server = .ok server)
    (hlate : ∃ x ∈ r.starts, ¬ x.1.endsBy r.settings.wait.millis) :
    ¬ r.deploying.InTime r.regime ∧ r.deploying.failure r.regime =
      .phaseFailed "ingress-deployment" (Deployment.lateText r.settings.wait r.starts) := by
  have hcourse := deploying_course h
  rw [Deployment.verdict_of_late hlate] at hcourse
  refine ⟨fun hin => ?_, ?_⟩
  · obtain ⟨v, hv⟩ := Phase.inTime_iff.mp hin
    cases hcourse.symm.trans hv
  · rw [Phase.failure, hcourse]
    rfl

theorem deploying_failure (hlate : ¬ r.deploying.InTime r.regime) :
    ∃ reason, r.deploying.failure r.regime = .phaseFailed "ingress-deployment" reason := by
  obtain ⟨reason, hreason⟩ : ∃ reason, (r.deploying.course r.regime).2 = some (.error reason) := by
    rcases r.ingressActions_cases with ⟨message, hbody⟩ | ⟨-, server, hserver⟩
    · refine ⟨message, ?_⟩
      have hcourse : Lifecycle.actionsCourse r.regime [(.fail message : Action Unit)] .nothing =
          some (0, .error message) := rfl
      rw [Phase.course, deploying, hbody, hcourse, Lifecycle.Course.cutOff,
        if_pos (Nat.zero_le _)]
    · have hcourse := deploying_course hserver
      cases hverdict : Deployment.verdict r.settings.wait r.starts with
      | ok v => exact absurd (Phase.inTime_iff.mpr ⟨v, hverdict ▸ hcourse⟩) hlate
      | error reason => exact ⟨reason, hverdict ▸ hcourse⟩
  exact ⟨reason, by rw [Phase.failure, hreason]; rfl⟩

/-- A start that has begun a phase has got past it or failed in it. -/
theorem Started.inTime_or_fails (h : Started r result) {p : Phase Unit} (hp : p ∈ r.phases)
    (hbegun : p.name ∈ (sessionOf result).world.begunPhases) :
    p.InTime r.regime ∨ ∃ f, result = .error f ∧ f.error = p.failure r.regime := by
  cases h with
  | runs s server backend http https launched hsteps hin hlaunched hs hserver =>
    exact .inl (hin p hp)
  | stopped s busClosed pre q post launched hsteps hphases hin hlate hlaunched hs =>
    rw [sessionOf, hs.begun, List.mem_map] at hbegun
    obtain ⟨q', hq', hname⟩ := hbegun
    obtain rfl := phase_eq_of_name ((front_of_split hphases).subset hq') hp hname
    rcases List.mem_append.mp hq' with hpre | hlast
    · exact .inl (hin q' hpre)
    · exact .inr ⟨_, rfl, by rw [List.mem_singleton.mp hlast]⟩

/-! ## The timers -/

theorem acquisition_period (hperiod : 0 < r.settings.resyncInterval.nanos) {i : Informer}
    {a : Acquisition Unit} (h : r.acquisition = some (i, a)) {loop : Refresh}
    (hloop : i.loop = some loop) : loop.ticker.period = r.settings.resyncInterval := by
  unfold acquisition at h
  obtain ⟨source, -, hx⟩ := Option.map_eq_some_iff.mp h
  simp only [dif_pos hperiod] at hx
  have hinformer := congrArg Prod.fst hx
  simp only [Informer.acquire, Informer.ask] at hinformer
  subst hinformer
  dsimp only at hloop
  split at hloop
  · cases hloop
    rfl
  · cases hloop

end Receiver

namespace Capability.Refresh

theorem period_advance (limit : Nat) (c : Cache) (r : Refresh) :
    (r.advance limit c).2.ticker.period = r.ticker.period :=
  advance_induct (P := fun _ r' => r'.ticker.period = r.ticker.period)
    (Q := fun _ r' => r'.ticker.period = r.ticker.period)
    (fun _ _ _ h _ _ _ => h) (fun _ _ _ _ h _ _ => h) (fun _ _ h _ => h) rfl

end Capability.Refresh

namespace Running

variable {x : Running} {period : Duration}

/-- The loop that keeps the index, if there is one, has this period. -/
def Resyncs (period : Duration) (x : Running) : Prop :=
  ∀ i loop, x.lister = some i → i.loop = some loop → loop.ticker.period = period

theorem Resyncs.catchUp (h : x.Resyncs period) : x.catchUp.Resyncs period := by
  unfold Running.catchUp
  split
  · exact h
  · case h_2 i hlister =>
    intro i' loop' hi' hloop'
    cases hi'
    simp only [Informer.advance] at hloop'
    split at hloop'
    · case h_1 hnone => cases hnone.symm.trans hloop'
    · case h_2 loop hloop =>
      cases hloop'
      rw [Refresh.period_advance]
      exact h i loop hlister hloop

theorem Resyncs.serve (h : x.Resyncs period) (operations : List Operation) :
    (x.serve operations).Resyncs period := by
  refine serve_lister (fun y z hlister hy => ?_) (fun y hy => hy.catchUp) h operations
  rw [Resyncs, hlister]
  exact hy

end Running

namespace Receiver

variable {r : Receiver} {result : Except StartFailure Running}

theorem Started.resyncs {x : Running} (h : Started r (.ok x))
    (hperiod : 0 < r.settings.resyncInterval.nanos) : x.Resyncs r.settings.resyncInterval := by
  cases h with
  | runs s server backend http https launched hsteps hin hlaunched hs hserver =>
    refine Running.Resyncs.catchUp fun i loop hi hloop => ?_
    obtain ⟨⟨i, a⟩, hacquisition, rfl⟩ := Option.map_eq_some_iff.mp hi
    exact acquisition_period hperiod hacquisition hloop

/-! ## Accepted settings -/

/-- The deadlines and the periods of a receiver do what they are for. -/
structure KeepsDeadlines (r : Receiver) (result : Except StartFailure Running) : Prop where
  polls : 0 < r.settings.pollInterval.nanos
  resyncs : 0 < r.settings.resyncInterval.nanos
  /-- Every loop that keeps the index has the period that is set. -/
  period : ∀ x, result = .ok x →
    ∀ operations, (x.serve operations).Resyncs r.settings.resyncInterval
  margins : r.phases.map Phase.limit = limits Duration.saturatingAdd r.settings
  bounded : ∀ p ∈ r.phases, p.limit.nanos ≤ longestLimit.nanos
  /-- The deadlines inside are over strictly before the limits of their phases. -/
  listing : r.listing ∈ r.phases ∧ r.settings.startupTimeout.nanos < r.listing.limit.nanos
  deploying : r.deploying ∈ r.phases ∧ r.settings.wait.nanos < r.deploying.limit.nanos
  /-- When they pass, that is told by who has set them. -/
  listingLate : ∀ i a answer, r.acquisition = some (i, a) → r.firstAnswer = some answer →
    ¬ answer.ArrivesWithin r.settings.startupTimeout → a = .timedOut r.settings.startupTimeout
  deployingLate : (∃ server, r.server = .ok server) →
    (∃ x ∈ r.starts, ¬ x.1.endsBy r.settings.wait.millis) →
      "ingress-deployment" ∈ (sessionOf result).world.begunPhases →
        ∃ f, result = .error f ∧ f.error =
          .phaseFailed "ingress-deployment" (Deployment.lateText r.settings.wait r.starts)
  /-- The limits of the two phases are never told to have passed. -/
  inner : ∀ f, result = .error f → ∀ name limit, f.error = .phaseTimedOut name limit →
    name ≠ Informer.name ∧ name ≠ "ingress-deployment"

theorem listing_told (h : ¬ r.listing.InTime r.regime) :
    ∃ reason, r.listing.failure r.regime = .phaseFailed Informer.name reason := by
  obtain ⟨reason, hrefused⟩ := not_forall_not.mp fun hfree => h (r.listing_inTime.mpr hfree)
  exact ⟨_, listing_failure hrefused⟩

theorem acquisition_timedOut {i : Informer} {a : Acquisition Unit}
    (h : r.acquisition = some (i, a)) {answer : Capability.Response (List Capability.EventType)}
    (hanswer : r.firstAnswer = some answer)
    (hlate : ¬ answer.ArrivesWithin r.settings.startupTimeout) :
    a = .timedOut r.settings.startupTimeout := by
  obtain ⟨source, hsource, hx⟩ := acquisition_acquired h
  rw [firstAnswer, hsource] at hanswer
  cases hanswer
  have hresult : a = _ := hx.result
  rw [Settings.startupTimeout, Acquisition.ofResponse_of_late hlate] at hresult
  exact hresult

theorem start_keepsDeadlines (hvalid : r.settings.isValid = true) :
    r.KeepsDeadlines (Running.start r) := by
  have hspan : ∀ d : Settings.Timing,
      0 < (d.span r.settings).nanos ∧ (d.span r.settings).nanos ≤ Settings.day.nanos :=
    fun d => (r.settings.isValid_iff.mp hvalid) (.timing d)
  have hphase : r.settings.phaseTimeout.nanos ≤ Settings.day.nanos := (hspan .phaseTimeout).2
  have hstartup : r.settings.startupTimeout.nanos ≤ Settings.day.nanos := (hspan .startupTimeout).2
  have hwait : r.settings.wait.nanos ≤ Settings.day.nanos := (hspan .wait).2
  have hstarted := r.start_started
  generalize Running.start r = result at hstarted
  constructor
  case polls => exact (hspan .pollInterval).1
  case resyncs => exact (hspan .resync).1
  case period =>
    rintro x rfl operations
    exact (hstarted.resyncs (hspan .resync).1).serve operations
  case margins =>
    rw [phases_limits, limits, limits, saturatingAdd_margin hstartup, saturatingAdd_margin hwait]
  case bounded =>
    intro p hp
    refine limits_le hphase hstartup hwait p.limit ?_
    rw [← phases_limits]
    exact List.mem_map_of_mem hp
  case listing =>
    exact ⟨r.listing_mem, (nanos_lt_add_margin _).trans_le (Duration.nanos_le_max_right _ _)⟩
  case deploying => exact ⟨r.deploying_mem, nanos_lt_add_margin _⟩
  case listingLate =>
    intro i a answer hacquisition hanswer hlate
    exact acquisition_timedOut hacquisition hanswer hlate
  case deployingLate =>
    rintro ⟨server, hserver⟩ hlate hbegun
    obtain ⟨hnot, hfailure⟩ := deploying_late hserver hlate
    rcases hstarted.inTime_or_fails r.deploying_mem hbegun with hin | ⟨f, hf, herror⟩
    · exact absurd hin hnot
    · exact ⟨f, hf, herror.trans hfailure⟩
  case inner =>
    rintro f rfl name limit herror
    have hphase : f.error.phase = name := by rw [herror]; rfl
    refine ⟨fun hname => ?_, fun hname => ?_⟩
    · obtain ⟨hlate, hfailure⟩ := hstarted.fails (hphase.trans hname)
      obtain ⟨reason, hreason⟩ := listing_told hlate
      cases herror.symm.trans (hfailure.trans hreason)
    · obtain ⟨hlate, hfailure⟩ := hstarted.fails_in r.deploying_mem (hphase.trans hname)
      obtain ⟨reason, hreason⟩ := deploying_failure hlate
      cases herror.symm.trans (hfailure.trans hreason)

end Receiver

/-- What validation is good for: what it tells, and what receivers can rely on. -/
structure Settings.Validates (s : Settings) : Prop where
  reports : s.Reports s.violations
  safe : s.isValid = true → ∀ r : Receiver, r.settings = s → r.KeepsDeadlines (Running.start r)

/-- **Validation is exact, and with settings that it accepts the deadlines do their work.** -/
theorem Settings.validation_exact (s : Settings) : s.Validates := by
  refine ⟨s.violations_reports, ?_⟩
  rintro hvalid r rfl
  exact Receiver.start_keepsDeadlines hvalid

end EventIntake
