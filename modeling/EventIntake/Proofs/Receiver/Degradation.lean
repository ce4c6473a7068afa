import EventIntake.Proofs.Receiver.Teardown
import EventIntake.Settings.Validation

/-!
# The optional capability

A receiver starts without its index of event types when these cannot be listed.  The acquisition
ends by its own deadline, strictly before the limit of the phase that waits for it, so the phase
fails only when a permission is missing that the settings require (`Receiver.start_degrades`).  A
start comes as far as its phases are in time: it begins the phase of the listing when those before
it are (`Started.begun`), and succeeds when all are (`Started.succeeds`).
-/

namespace EventIntake

open Capability (Acquisition EventType Informer Response Source)
open Lifecycle (Action BootFailure Phase Resource Session)

theorem Journal.lines_foldl_log (j : Journal) (lines : List LogLine) :
    (lines.foldl Journal.log j).lines = j.lines ++ lines := by
  induction lines generalizing j with
  | nil => exact (List.append_nil _).symm
  | cons line rest ih =>
    rw [List.foldl_cons, ih, Journal.lines_log, List.append_assoc, List.singleton_append]

/-! ## Acquisitions -/

namespace Capability

/-- Whether an answer arrives, and no later than `limit`. -/
def Response.ArrivesWithin {α : Type} (limit : Duration) (r : Response α) : Prop :=
  ∃ delay, r.delay = some delay ∧ delay.nanos ≤ limit.nanos

namespace Acquisition

variable {α : Type} {seconds : Nat} {r : Response α}

/-- A limit of whole seconds is met to the millisecond when it is met at all. -/
theorem millis_le_ofSecs (d : Duration) :
    d.millis ≤ (Duration.ofSecs seconds).millis ↔ d.nanos ≤ (Duration.ofSecs seconds).nanos := by
  rw [Duration.millis_le_iff, Duration.millis_ofSecs]
  simp only [Duration.ofSecs]
  omega

theorem ofResponse_of_arrives (h : r.ArrivesWithin (.ofSecs seconds)) :
    (ofResponse (.ofSecs seconds) r).1 = ofResult r.result := by
  obtain ⟨delay, hdelay, hle⟩ := h
  rw [ofResponse, hdelay]
  exact congrArg Prod.fst (if_pos ((millis_le_ofSecs delay).mpr hle))

theorem ofResponse_of_late (h : ¬ r.ArrivesWithin (.ofSecs seconds)) :
    (ofResponse (.ofSecs seconds) r).1 = .timedOut (.ofSecs seconds) := by
  rw [ofResponse]
  split
  · case h_1 delay hdelay =>
    exact congrArg Prod.fst
      (if_neg fun hle => h ⟨delay, hdelay, (millis_le_ofSecs delay).mp hle⟩)
  · rfl

theorem isAvailable_ofResponse : (ofResponse (.ofSecs seconds) r).1.isAvailable ↔
    r.ArrivesWithin (.ofSecs seconds) ∧ ∃ value, r.result = .ok value := by
  by_cases h : r.ArrivesWithin (.ofSecs seconds)
  · rw [ofResponse_of_arrives h]
    match hresult : r.result with
    | .ok value => simp [ofResult, isAvailable, get?, h]
    | .error (.permission reason) => simp [ofResult, isAvailable, get?]
    | .error (.failed reason) => simp [ofResult, isAvailable, get?]
  · rw [ofResponse_of_late h]
    simp [isAvailable, get?, h]

theorem isAvailable_map {β : Type} (f : α → β) (a : Acquisition α) :
    (a.map f).isAvailable = a.isAvailable := by
  cases a <;> rfl

theorem map_eq_denied {β : Type} {f : α → β} {a : Acquisition α} {reason : String} :
    a.map f = .denied reason ↔ a = .denied reason := by
  cases a <;> simp [map]

theorem denied_ofResponse {reason : String} :
    (ofResponse (.ofSecs seconds) r).1 = .denied reason ↔
      r.ArrivesWithin (.ofSecs seconds) ∧ r.result = .error (.permission reason) := by
  by_cases h : r.ArrivesWithin (.ofSecs seconds)
  · rw [ofResponse_of_arrives h]
    match hresult : r.result with
    | .ok value => simp [ofResult]
    | .error (.permission reason) => simp [ofResult, h]
    | .error (.failed reason) => simp [ofResult]
  · rw [ofResponse_of_late h]
    simp [h]

theorem mem_record {capability : String} {a : Acquisition α} {line : LogLine}
    (h : a.warning? capability = some line) (j : Journal) :
    line ∈ (a.record capability j).lines := by
  rw [record, h]
  exact List.mem_append_right _ List.mem_cons_self

end Acquisition

namespace Informer

/-- What the acquisition of an informer leaves, by the answer to its first list. -/
structure Acquired (source : Source) (limit : Duration) (x : Informer × Acquisition Unit) :
    Prop where
  result : x.2 = (Acquisition.ofResponse limit (source.answers source.asked.length)).1.map
    fun _ => ()
  now : x.1.cache.now ≤ limit.millis
  asked : x.1.cache.source.asked = source.asked ++ [0]
  loop : x.1.loop.isSome = x.2.isAvailable
  told : ∀ line, (Acquisition.ofResponse limit (source.answers source.asked.length)).1.warning?
    capability = some line → line ∈ x.1.cache.journal.lines

theorem acquire_acquired (source : Source) (limit period : Duration) (positive : 0 < period.nanos) :
    Acquired source limit ((ofSource source).acquire limit period positive) := by
  have htime := Acquisition.snd_ofResponse_le limit (source.answers source.asked.length)
  have hlist : ((ofSource source).cache.source.list (ofSource source).cache.now) =
      ({ source with asked := source.asked ++ [0] }, source.answers source.asked.length) := rfl
  generalize hresponse : Acquisition.ofResponse limit (source.answers source.asked.length) =
    response at htime
  obtain ⟨acquisition, time⟩ := response
  have hnow : 0 + time ≤ limit.millis := by rwa [Nat.zero_add]
  simp only [acquire, ask, hlist, hresponse]
  refine ⟨by rw [hresponse], ?_, ?_, ?_, ?_⟩
  · cases acquisition <;> exact hnow
  · cases acquisition <;> rfl
  · cases acquisition <;> rfl
  · rw [hresponse]
    exact fun line hline => Acquisition.mem_record hline _

end Informer

end Capability

namespace Receiver

variable {r : Receiver}

/-! ## What is listed at the start -/

def firstAnswer (r : Receiver) : Option (Response (List EventType)) :=
  r.eventSource.map fun source => source.answers source.asked.length

/-- Event types can be listed: the capability is enabled, there is a source or an endpoint, and the
first list goes well in time. -/
def Listed (r : Receiver) : Prop :=
  r.settings.capability.enabled ∧
    (r.source.isSome ∨ r.settings.capability.endpoint.isSome) ∧
    ∃ answer items, r.firstAnswer = some answer ∧
      answer.ArrivesWithin r.settings.startupTimeout ∧ answer.result = .ok items

/-- A permission is required, and the first list is refused in time for the lack of it. -/
def Refused (r : Receiver) (reason : String) : Prop :=
  r.settings.capability.enabled ∧ r.settings.capability.requirePermission ∧
    ∃ answer, r.firstAnswer = some answer ∧
      answer.ArrivesWithin r.settings.startupTimeout ∧ answer.result = .error (.permission reason)

theorem eventSource_isSome (r : Receiver) : r.eventSource.isSome ↔
    r.settings.capability.enabled ∧
      (r.source.isSome ∨ r.settings.capability.endpoint.isSome) := by
  unfold eventSource
  split
  · case isTrue henabled => simp [henabled]
  · case isFalse hdisabled => simp [hdisabled]

theorem acquisition_acquired {i : Informer} {a : Acquisition Unit}
    (h : r.acquisition = some (i, a)) : ∃ source, r.eventSource = some source ∧
      Informer.Acquired source r.settings.startupTimeout (i, a) := by
  unfold acquisition at h
  obtain ⟨source, hsource, hx⟩ := Option.map_eq_some_iff.mp h
  refine ⟨source, hsource, ?_⟩
  rw [← hx]
  simp only
  split
  · exact Informer.acquire_acquired ..
  · exact Informer.acquire_acquired ..

theorem acquisition_cases (r : Receiver) : r.eventSource = none ∧ r.acquisition = none ∨
    ∃ source x, r.eventSource = some source ∧ r.acquisition = some x ∧
      Informer.Acquired source r.settings.startupTimeout x := by
  cases hacquisition : r.acquisition with
  | none => exact .inl ⟨Option.map_eq_none_iff.mp hacquisition, rfl⟩
  | some x =>
    obtain ⟨source, hsource, hx⟩ := acquisition_acquired hacquisition
    exact .inr ⟨source, x, hsource, rfl, hx⟩

theorem listed_iff (r : Receiver) : r.Listed ↔ ∃ x, r.acquisition = some x ∧ x.2.isAvailable := by
  have hsource := r.eventSource_isSome
  rcases r.acquisition_cases with ⟨hnone, hacquisition⟩ | ⟨source, x, hsome, hacquisition, hx⟩
  · simp [Listed, firstAnswer, hnone, hacquisition]
  · rw [hsome] at hsource
    obtain ⟨henabled, hgiven⟩ := hsource.mp rfl
    have havailable : x.2.isAvailable ↔
        (source.answers source.asked.length).ArrivesWithin r.settings.startupTimeout ∧
          ∃ items, (source.answers source.asked.length).result = .ok items := by
      rw [hx.result, Acquisition.isAvailable_map]
      exact Acquisition.isAvailable_ofResponse
    simp [Listed, firstAnswer, hsome, hacquisition, henabled, hgiven, havailable]

theorem refused_iff (r : Receiver) (reason : String) : r.Refused reason ↔
    r.settings.capability.requirePermission ∧
      ∃ informer, r.acquisition = some (informer, .denied reason) := by
  have hsource := r.eventSource_isSome
  rcases r.acquisition_cases with ⟨hnone, hacquisition⟩ | ⟨source, x, hsome, hacquisition, hx⟩
  · simp [Refused, firstAnswer, hnone, hacquisition]
  · rw [hsome] at hsource
    obtain ⟨henabled, -⟩ := hsource.mp rfl
    obtain ⟨informer, a⟩ := x
    have hdenied : a = .denied reason ↔
        (source.answers source.asked.length).ArrivesWithin r.settings.startupTimeout ∧
          (source.answers source.asked.length).result = .error (.permission reason) := by
      have hresult : a = _ := hx.result
      rw [hresult, Acquisition.map_eq_denied]
      exact Acquisition.denied_ofResponse
    simp [Refused, firstAnswer, hsome, hacquisition, henabled, hdenied]

theorem informer_isSome (r : Receiver) : r.informer.isSome ↔ r.Listed := by
  rw [r.listed_iff, informer]
  cases r.acquisition with
  | none => simp
  | some x =>
    obtain ⟨informer, a⟩ := x
    cases h : a.isAvailable <;> simp [h]

/-! ## The phase -/

/-- The phase that acquires the event types. -/
def listing (r : Receiver) : Phase Unit :=
  ⟨Informer.name, max r.settings.phaseTimeout (r.settings.startupTimeout + margin),
    r.informerActions⟩

/-- The failure of a start that lacks a required permission. -/
def refusal (reason : String) : BootFailure :=
  .phaseFailed Informer.name ("event type index requires list/watch permission: " ++ reason)

def verdict (r : Receiver) : Acquisition Unit → Except String (Lifecycle.Value Unit)
  | .denied reason =>
    if r.settings.capability.requirePermission then
      .error ("event type index requires list/watch permission: " ++ reason)
    else .ok .nothing
  | _ => .ok .nothing

theorem afterAcquisition_course (r : Receiver) (a : Acquisition Unit) :
    Lifecycle.actionsCourse r.regime (r.afterAcquisition a) .nothing = some (0, r.verdict a) := by
  cases a with
  | available value => rfl
  | denied reason =>
    simp only [afterAcquisition, verdict]
    split <;> rfl
  | unavailable reason => rfl
  | timedOut limit => rfl

theorem informerActions_course {i : Informer} {a : Acquisition Unit}
    (h : r.acquisition = some (i, a)) :
    Lifecycle.actionsCourse r.regime r.informerActions .nothing =
      some (i.cache.now, r.verdict a) := by
  simp only [informerActions, h, Lifecycle.actionsCourse, Action.course, Lifecycle.Course.andThen,
    r.afterAcquisition_course, Lifecycle.Course.delay, Duration.millis_ofMillis, Nat.add_zero]

/-- The limit of the phase lies beyond the deadline of the acquisition. -/
theorem startupTimeout_lt_limit (r : Receiver) :
    r.settings.startupTimeout.millis < r.listing.limit.millis := by
  have hlimit := Duration.nanos_le_max_right r.settings.phaseTimeout
    (r.settings.startupTimeout + margin)
  refine Nat.lt_of_not_le fun hle => ?_
  rw [Duration.millis_le_iff, Settings.startupTimeout, Duration.millis_ofSecs] at hle
  change r.settings.capability.startupTimeoutSecs * 1000000000 + 1 * 1000000000 ≤ _ at hlimit
  simp only [listing] at hle
  omega

/-- **The phase is in time unless a required permission is missing.** -/
theorem listing_inTime (r : Receiver) :
    r.listing.InTime r.regime ↔ ∀ reason, ¬ r.Refused reason := by
  rcases r.acquisition_cases with ⟨-, hacquisition⟩ | ⟨source, x, -, hacquisition, hx⟩
  · have hbody : r.listing.body = [] := by
      simp [listing, informerActions, hacquisition]
    refine ⟨fun _ reason hrefused => ?_, fun _ => ⟨0, .nothing, by rw [hbody]; rfl, Nat.zero_le _⟩⟩
    obtain ⟨-, informer, hsome⟩ := (r.refused_iff reason).mp hrefused
    rw [hacquisition] at hsome
    cases hsome
  · obtain ⟨informer, a⟩ := x
    have hcourse := informerActions_course hacquisition
    have hle : informer.cache.now ≤ r.listing.limit.millis :=
      hx.now.trans (Nat.le_of_lt r.startupTimeout_lt_limit)
    have hverdict : (∃ v, r.verdict a = .ok v) ↔ ∀ reason, ¬ r.Refused reason := by
      simp only [r.refused_iff, hacquisition, verdict]
      split
      · case h_1 reason =>
        split
        · case isTrue hrequire => simp [hrequire]
        · case isFalse hfree => simp [hfree]
      · case h_2 hother =>
        refine ⟨fun _ reason ⟨_, i, hi⟩ => ?_, fun _ => ⟨_, rfl⟩⟩
        cases hi
        exact hother reason rfl
    rw [← hverdict]
    constructor
    · rintro ⟨d, v, hd, -⟩
      rw [listing, hcourse] at hd
      exact ⟨v, (Prod.mk.inj (Option.some.inj hd)).2⟩
    · rintro ⟨v, hv⟩
      exact ⟨_, v, by rw [listing, hcourse, hv], hle⟩

theorem listing_failure {reason : String} (h : r.Refused reason) :
    r.listing.failure r.regime = refusal reason := by
  obtain ⟨hrequire, informer, hacquisition⟩ := (r.refused_iff reason).mp h
  have hcourse := informerActions_course hacquisition
  have hle : informer.cache.now ≤ r.listing.limit.millis := by
    obtain ⟨source, -, hx⟩ := acquisition_acquired hacquisition
    exact hx.now.trans (Nat.le_of_lt r.startupTimeout_lt_limit)
  have hresult : (r.listing.course r.regime).2 =
      some (.error ("event type index requires list/watch permission: " ++ reason)) := by
    rw [Phase.course, listing, hcourse, Lifecycle.Course.cutOff]
    exact (congrArg Prod.snd (if_pos hle)).trans (by rw [verdict, if_pos hrequire])
  rw [Phase.failure, hresult]
  rfl

/-! ## Where the phase stands -/

theorem listing_mem (r : Receiver) : r.listing ∈ r.phases := by
  simp [phases, steps, listing, Informer.name]

/-- A phase is known by its name. -/
theorem phase_eq_of_name {p q : Phase Unit} (hp : p ∈ r.phases) (hq : q ∈ r.phases)
    (hname : p.name = q.name) : p = q := by
  have hnodup : (r.phases.map Phase.name).Nodup := by
    rw [r.phases_names]
    decide
  exact List.inj_on_of_nodup_map hnodup hp hq hname

theorem eq_listing {p : Phase Unit} (hp : p ∈ r.phases) (hname : p.name = Informer.name) :
    p = r.listing :=
  phase_eq_of_name hp r.listing_mem hname

/-- A start that has got past the phase has begun the next one. -/
theorem ingress_begun {names : List String} {name : String}
    (h : names ++ [name] <+: phaseNames) (hmem : Informer.name ∈ names) :
    "ingress-deployment" ∈ names ++ [name] := by
  have hplaces : ∀ n < 8, Informer.name ∈ phaseNames.take n →
      "ingress-deployment" ∈ phaseNames.take (n + 1) := by decide
  have hlength : names.length < 8 := by simpa [phaseNames, Nat.lt_succ_iff] using h.length_le
  have hnames : names = phaseNames.take names.length :=
    List.prefix_iff_eq_take.mp ((List.prefix_append _ _).trans h)
  have hall : names ++ [name] = phaseNames.take (names.length + 1) := by
    simpa using List.prefix_iff_eq_take.mp h
  rw [hall]
  exact hplaces _ hlength (hnames ▸ hmem)

/-! ## What is told -/

theorem runSteps_append (s : Session Unit) (front rest : List Step) :
    runSteps s (front ++ rest) = match runSteps s front with
      | (s', none) => runSteps s' rest
      | (s', some e) => (s', some e) := by
  induction front generalizing s with
  | nil => rfl
  | cons step front ih =>
    simp only [List.cons_append, runSteps]
    split
    · rfl
    · exact ih _

theorem runSteps_cons (s : Session Unit) (step : Step) (rest : List Step) :
    ∃ s', (step.notes s.world.journal).Grows s'.world.journal ∧
      ((runSteps s (step :: rest)).1 = s' ∨
        runSteps s (step :: rest) = runSteps s' rest) := by
  have hperform := Session.perform_journal
    { s with world := { s.world with journal := step.notes s.world.journal } } (.phase step.phase)
  simp only [runSteps]
  split
  · case h_1 s' e hs' =>
    rw [hs'] at hperform
    exact ⟨s', hperform, .inl rfl⟩
  · case h_2 s' reply hreply hs' =>
    rw [hs'] at hperform
    exact ⟨s', hperform, .inr rfl⟩

theorem runSteps_journal {steps : List Step} (hnotes : ∀ step ∈ steps, step.notes = id)
    (s : Session Unit) : s.world.journal.Grows (runSteps s steps).1.world.journal := by
  induction steps generalizing s with
  | nil => exact .refl _
  | cons step rest ih =>
    obtain ⟨hfirst, hrest⟩ := List.forall_mem_cons.mp hnotes
    obtain ⟨s', hgrows, hend | hon⟩ := runSteps_cons s step rest
    · rw [hend]
      rwa [hfirst] at hgrows
    · rw [hon]
      rw [hfirst] at hgrows
      exact hgrows.trans (ih hrest s')

theorem steps_split (r : Receiver) : ∃ front rest,
    r.steps = front ++ ⟨r.listing, r.informerNotes⟩ :: rest ∧
      (∀ step ∈ front, step.notes = id) ∧ (∀ step ∈ rest, step.notes = id) ∧
      Informer.name ∉ front.map fun step => step.phase.name := by
  refine ⟨r.steps.take 4, r.steps.drop 5, rfl, ?_, ?_, ?_⟩
  · simp [steps]
  · simp [steps]
  · simp [steps, Informer.name]

/-- **What was acquired is told once the phase has begun, and nothing else is counted.** -/
theorem runSteps_told {s : Session Unit} {e : Option BootFailure}
    (hsteps : runSteps (.start r.settings.closeTimeout) r.steps = (s, e))
    (hbegun : Informer.name ∈ s.world.begunPhases) :
    ∃ j, ({} : Journal).Grows j ∧ (r.informerNotes j).Grows s.world.journal := by
  obtain ⟨front, rest, hsplit, hfront, hrest, hnot⟩ := r.steps_split
  rw [hsplit, runSteps_append] at hsteps
  have hbefore := runSteps_journal hfront (.start r.settings.closeTimeout)
  have hwent := runSteps_went (starting_start r.settings.closeTimeout) front fun p hp =>
    r.phases_isCalm p (by
      rw [phases, hsplit, List.map_append]
      exact List.mem_append_left _ hp)
  obtain ⟨result, hresult⟩ : ∃ result,
      runSteps (.start r.settings.closeTimeout) front = result := ⟨_, rfl⟩
  rw [hresult] at hsteps hbefore hwent
  cases hwent with
  | @through s₁ launched hin hlaunched hs =>
    refine ⟨s₁.world.journal, hbefore, ?_⟩
    obtain ⟨s', hgrows, hend | hon⟩ := runSteps_cons s₁ ⟨r.listing, r.informerNotes⟩ rest
    · rw [← hend, show runSteps s₁ _ = _ from hsteps] at hgrows
      exact hgrows
    · have hafter := runSteps_journal hrest s'
      rw [← hon, show runSteps s₁ _ = _ from hsteps] at hafter
      exact hgrows.trans hafter
  | @stopped s₁ pre p post launched hphases hin hlate hlaunched hs =>
    cases hsteps
    rw [hs.begun, List.nil_append] at hbegun
    have hnames := ((front_of_split hphases).map Phase.name).subset hbegun
    rw [List.map_map] at hnames
    exact absurd hnames hnot

/-- The journal tells of the acquisition `a`, and counts no other one. -/
structure TellsOf {α : Type} (a : Acquisition α) (j : Journal) : Prop where
  outcomes : j.metrics.outcomes = [a.outcome]
  warning : ∀ line, a.warning? Informer.capability = some line → line ∈ j.lines

theorem tellsOf_of_grows {j j' : Journal} {answer : Response (List EventType)}
    (hj : ({} : Journal).Grows j) (hj' : (r.informerNotes j).Grows j')
    (hanswer : r.firstAnswer = some answer) :
    TellsOf (Acquisition.ofResponse r.settings.startupTimeout answer).1 j' := by
  rcases r.acquisition_cases with ⟨hnone, -⟩ | ⟨source, x, hsome, hacquisition, hx⟩
  · rw [firstAnswer, hnone] at hanswer
    cases hanswer
  · rw [firstAnswer, hsome] at hanswer
    cases hanswer
    have hnotes : r.informerNotes j =
        (x.1.cache.journal.lines.foldl Journal.log j).count (·.outcome x.2.outcome) := by
      rw [informerNotes, hacquisition]
    rw [hnotes] at hj'
    have hbefore := (Journal.Grows.foldl_log j x.1.cache.journal.lines).outcomes.trans hj.outcomes
    refine ⟨?_, fun line hline => hj'.lines.subset ?_⟩
    · rw [hj'.outcomes]
      change x.2.outcome :: (x.1.cache.journal.lines.foldl Journal.log j).metrics.outcomes = _
      rw [hbefore, hx.result, Acquisition.outcome_map]
    · rw [Journal.lines_count, Journal.lines_foldl_log]
      exact List.mem_append_right _ (hx.told line hline)

/-! ## What is registered -/

theorem mem_launchedNames (r : Receiver) : Informer.name ∈ r.launchedNames ↔ r.Listed := by
  have hworker : ∀ i, Ingress.workerName i ≠ Informer.name := by
    intro i hname
    have hrank := teardownRank_workerName i
    rw [hname] at hrank
    exact absurd hrank (by decide)
  have hothers : ∀ name ∈ [exporterName, tracerName, Bus.name, Publisher.name, Watch.name,
      listenerName], Informer.name ≠ name := by decide
  simp only [List.forall_mem_cons] at hothers
  rw [← r.informer_isSome, launchedNames]
  split <;> split <;> simp_all

theorem listed_of_mention {x : Resource (Action Unit)} (hx : x ∈ r.phases.flatMap Phase.mentions)
    (hname : x.name = Informer.name) : r.Listed := by
  have hmem : ∀ {xs : List (Resource (Action Unit))}, x ∈ xs →
      Informer.name ∈ xs.map Resource.name := fun hx => hname ▸ List.mem_map_of_mem hx
  have hmention := r.mentions_sublist_informer.subset hx
  simp only [List.mem_append] at hmention
  rcases hmention with hfirst | hinformer | hworker | hlast
  · exact absurd (hmem hfirst) (by decide : Informer.name ∉ [exporterName, tracerName, Bus.name])
  · have hasked := hmem hinformer
    rw [r.informer_mentions] at hasked
    rw [← r.informer_isSome]
    by_contra hnone
    rw [if_neg hnone] at hasked
    cases hasked
  · have hrank := (r.workers_last x hworker).1
    rw [hname] at hrank
    exact absurd hrank (by decide)
  · exact absurd (hmem hlast)
      (by decide : Informer.name ∉ [Publisher.name, Watch.name, listenerName])

end Receiver

/-! ## While a receiver runs -/

namespace Running

variable {x : Running} {asked : Option (List Nat)}

/-- No index is kept, and the source was asked at these instants, if there is one. -/
structure Idle (asked : Option (List Nat)) (x : Running) : Prop where
  asked : x.lister.map (·.cache.source.asked) = asked
  loop : ∀ i, x.lister = some i → i.loop = none

theorem Idle.informer_eq_none (h : x.Idle asked) : x.informer = none := by
  rw [informer]
  cases hlister : x.lister with
  | none => rfl
  | some i => simp [h.loop i hlister]

theorem Idle.catchUp (h : x.Idle asked) : x.catchUp.Idle asked := by
  unfold Running.catchUp
  split
  · exact h
  · case h_2 i hlister =>
    have hloop := h.loop i hlister
    have hasked := h.asked
    rw [hlister] at hasked
    simp only [Informer.advance, hloop]
    refine ⟨hasked, fun i' hi' => ?_⟩
    cases hi'
    rfl

/-- **What only looks at the lister and outlasts a catching up outlasts all operations.** -/
theorem serve_lister {P : Running → Prop} (hsame : ∀ y z : Running, z.lister = y.lister → P y → P z)
    (hcatchUp : ∀ y : Running, P y → P y.catchUp) (h : P x) (operations : List Operation) :
    P (x.serve operations) := by
  induction operations generalizing x with
  | nil => exact h
  | cons o rest ih =>
    refine ih ?_
    cases o with
    | sleep time =>
      simp only [operate, Running.sleep]
      split
      · exact hsame x _ rfl h
      · exact hcatchUp _ (hsame x _ rfl h)
    | request network request =>
      simp only [operate]
      split
      · case h_1 x' response hok => exact hsame _ _ (request_session hok).2 h
      · exact h
    | shutDown cause => exact hsame x _ rfl h

/-- Whatever is asked of the receiver, the source is not asked again. -/
theorem Idle.serve (h : x.Idle asked) (operations : List Operation) :
    (x.serve operations).Idle asked := by
  refine serve_lister (fun y z hlister hy => ?_) (fun y hy => hy.catchUp) h operations
  exact ⟨by rw [hlister]; exact hy.asked, by rw [hlister]; exact hy.loop⟩

theorem catchUp_journal (x : Running) :
    x.session.world.journal.Grows x.catchUp.session.world.journal := by
  unfold catchUp
  split
  · exact .refl _
  · exact .foldl_log _ _

theorem catchUp_server (x : Running) : x.catchUp.server = x.server := by
  unfold catchUp
  split <;> rfl

theorem catchUp_informer (x : Running) : x.catchUp.informer.isSome = x.informer.isSome := by
  unfold catchUp
  split
  · rfl
  · case h_2 i hlister =>
    simp only [informer, hlister, Informer.advance]
    cases hloop : i.loop <;> simp [hloop]

end Running

namespace Receiver

def sessionOf : Except StartFailure Running → Session Unit
  | .ok x => x.session
  | .error f => f.session

variable {r : Receiver} {result : Except StartFailure Running}

/-- A start begins every phase before which all are in time. -/
theorem Started.begun (h : Started r result) {pre post : List (Phase Unit)} {p : Phase Unit}
    (hphases : r.phases = pre ++ p :: post) (hin : ∀ q ∈ pre, q.InTime r.regime) :
    p.name ∈ (sessionOf result).world.begunPhases := by
  cases h with
  | runs s server backend http https launched hsteps hall hlaunched hs hserver =>
    have hnames := (Running.holds_begins r hs server backend http https).2
    rw [sessionOf, hnames]
    exact List.mem_map_of_mem (by rw [hphases]; simp)
  | stopped s busClosed pre' late post' launched hsteps hphases' hin' hlate hlaunched hs =>
    rw [sessionOf, hs.begun]
    -- the phase that the start stopped in is not one of those before `p`
    rcases List.append_eq_append_iff.mp (hphases'.symm.trans hphases) with
      ⟨_ | ⟨q, more⟩, hpre, hrest⟩ | ⟨_ | ⟨q, more⟩, hpre, hrest⟩
    · cases hrest
      simp
    · cases hrest
      exact absurd (hin late (by rw [hpre]; simp)) hlate
    · cases hrest
      simp
    · cases hrest
      simp [hpre]

theorem Started.succeeds (h : Started r result) (hall : ∀ p ∈ r.phases, p.InTime r.regime) :
    ∃ x, result = .ok x := by
  cases h with
  | runs s server backend http https launched hsteps hin hlaunched hs hserver => exact ⟨_, rfl⟩
  | stopped s busClosed pre p post launched hsteps hphases hin hlate hlaunched hs =>
    exact absurd (hall p (by rw [hphases]; simp)) hlate

theorem Started.goesOn_or_fails (h : Started r result)
    (hbegun : Informer.name ∈ (sessionOf result).world.begunPhases) :
    (r.listing.InTime r.regime ∧
      "ingress-deployment" ∈ (sessionOf result).world.begunPhases) ∨
    ¬ r.listing.InTime r.regime ∧
      ∃ f, result = .error f ∧ f.error = r.listing.failure r.regime := by
  cases h with
  | runs s server backend http https launched hsteps hin hlaunched hs hserver =>
    refine .inl ⟨hin _ r.listing_mem, ?_⟩
    have hall := (Running.holds_begins r hs server backend http https).2
    rw [sessionOf, hall, r.phases_names]
    decide
  | stopped s busClosed pre p post launched hsteps hphases hin hlate hlaunched hs =>
    by_cases hname : p.name = Informer.name
    · obtain rfl := eq_listing (by rw [hphases]; simp) hname
      exact .inr ⟨hlate, _, rfl, rfl⟩
    · rw [sessionOf, hs.begun, List.map_append] at hbegun
      have hpre : Informer.name ∈ pre.map Phase.name := by
        rcases List.mem_append.mp hbegun with hpre | hlast
        · exact hpre
        · exact absurd (List.mem_singleton.mp hlast).symm hname
      obtain ⟨q, hq, hqname⟩ := List.mem_map.mp hpre
      obtain rfl := eq_listing (r := r) (by rw [hphases]; exact List.mem_append_left _ hq) hqname
      refine .inl ⟨hin _ hq, ?_⟩
      rw [sessionOf, hs.begun, List.map_append]
      refine ingress_begun ⟨post.map Phase.name, ?_⟩ hpre
      rw [← r.phases_names, hphases]
      simp

/-- The phase that a start has failed in was not in time. -/
theorem Started.fails_in {f : StartFailure} (h : Started r (.error f)) {p : Phase Unit}
    (hp : p ∈ r.phases) (hphase : f.error.phase = p.name) :
    ¬ p.InTime r.regime ∧ f.error = p.failure r.regime := by
  cases h with
  | stopped s busClosed pre q post launched hsteps hphases hin hlate hlaunched hs =>
    rw [Phase.failure_phase] at hphase
    obtain rfl := phase_eq_of_name (by rw [hphases]; simp) hp hphase
    exact ⟨hlate, rfl⟩

theorem Started.fails {f : StartFailure} (h : Started r (.error f))
    (hphase : f.error.phase = Informer.name) :
    ¬ r.listing.InTime r.regime ∧ f.error = r.listing.failure r.regime :=
  h.fails_in r.listing_mem hphase

theorem Started.told (h : Started r result)
    (hbegun : Informer.name ∈ (sessionOf result).world.begunPhases) :
    ∃ j, ({} : Journal).Grows j ∧ (r.informerNotes j).Grows (sessionOf result).world.journal := by
  cases h with
  | runs s server backend http https launched hsteps hin hlaunched hs hserver =>
    have hmem : Informer.name ∈ s.world.begunPhases := by
      rw [hs.begun, r.phases_names]
      decide
    obtain ⟨j, hj, hnotes⟩ := runSteps_told hsteps hmem
    have hfinish := Session.perform_journal s .finish
    have hcatchUp := Running.catchUp_journal (r.begins s server backend http https)
    exact ⟨j, hj, (hnotes.trans hfinish).trans hcatchUp⟩
  | stopped s busClosed pre p post launched hsteps hphases hin hlate hlaunched hs =>
    exact runSteps_told hsteps hbegun

theorem Started.tellsOf (h : Started r result)
    (hbegun : Informer.name ∈ (sessionOf result).world.begunPhases)
    {answer : Response (List EventType)} (hanswer : r.firstAnswer = some answer) :
    TellsOf (Acquisition.ofResponse r.settings.startupTimeout answer).1
      (sessionOf result).world.journal := by
  obtain ⟨j, hj, hnotes⟩ := h.told hbegun
  exact tellsOf_of_grows hj hnotes hanswer

theorem lister_isSome (r : Receiver) :
    ((r.acquisition.map Prod.fst).filter (·.loop.isSome)).isSome ↔ r.Listed := by
  rw [r.listed_iff]
  rcases r.acquisition_cases with ⟨-, hnone⟩ | ⟨source, x, -, hsome, hx⟩
  · simp [hnone]
  · have hloop := hx.loop
    cases havailable : x.2.isAvailable <;> simp [hsome, hloop, havailable]

theorem server_index {server : Ingress.Server} (h : r.server = .ok server) :
    server.index = r.index := by
  unfold Receiver.server at h
  split at h
  · case h_1 o ho =>
    simp only [Ingress.Server.listen, bind, Except.bind, pure, Except.pure] at h
    split at h
    · cases h
    · split at h
      · cases h
      · cases h
        rfl
  · cases h

theorem Started.available {x : Running} (h : Started r (.ok x)) :
    (x.informer.isSome ↔ r.Listed) ∧ (x.server.index.isSome ↔ r.Listed) := by
  cases h with
  | runs s server backend http https launched hsteps hin hlaunched hs hserver =>
    rw [Running.catchUp_informer, Running.catchUp_server]
    refine ⟨r.lister_isSome, ?_⟩
    rw [begins, server_index hserver, index, Option.isSome_map]
    exact r.informer_isSome

theorem Started.registered {x : Running} (h : Started r (.ok x)) :
    Informer.name ∈ x.session.world.coordinator.entries.map (·.resource.name) ↔ r.Listed := by
  cases h with
  | runs s server backend http https launched hsteps hin hlaunched hs hserver =>
    have hholds := (Running.holds_begins r hs server backend http https).1
    rw [hholds.world.entries, Lifecycle.entriesOf_names,
      (launchedNames_perm hin hlaunched).mem_iff]
    exact r.mem_launchedNames

theorem Started.closed {f : StartFailure} (h : Started r (.error f)) {report : Lifecycle.Report}
    (hreport : f.session.world.coordinator.report = some report)
    (hmem : Informer.name ∈ report.attempted) : r.Listed := by
  cases h with
  | stopped s busClosed pre p post launched hsteps hphases hin hlate hlaunched hs =>
    have hsame := hs.report.symm.trans hreport
    cases hsame
    obtain ⟨e, he, hname⟩ := List.mem_map.mp hmem
    have hlaunched' : e.resource ∈ launched := by
      rw [← Lifecycle.entriesOf_resources launched]
      exact List.mem_map_of_mem ((Lifecycle.closingOrder_perm _).mem_iff.mp he)
    have hfront := front_of_split hphases
    have hcalm : ∀ q ∈ pre ++ [p], q.IsCalm := fun q hq => r.phases_isCalm q (hfront.subset hq)
    obtain ⟨q, hq, hmention⟩ := List.mem_flatMap.mp ((hlaunched.subperm hcalm).subset hlaunched')
    exact listed_of_mention (List.mem_flatMap.mpr ⟨q, hfront.subset hq, hmention⟩) hname

theorem acquired_idle (hnot : ¬ r.Listed) {i : Informer} {a : Acquisition Unit}
    (h : r.acquisition = some (i, a)) :
    i.loop = none ∧ some i.cache.source.asked = r.eventSource.map fun s => s.asked ++ [0] := by
  obtain ⟨source, hsource, hx⟩ := acquisition_acquired h
  refine ⟨?_, by rw [hsource, Option.map_some, ← hx.asked]⟩
  have hunavailable : ¬ a.isAvailable := fun ha => hnot (r.listed_iff.mpr ⟨_, h, ha⟩)
  rw [← hx.loop] at hunavailable
  exact Option.not_isSome_iff_eq_none.mp hunavailable

theorem begins_idle (hnot : ¬ r.Listed) (s : Session Unit) (server : Ingress.Server)
    (backend : BackendOptions) (http https : ListenerOptions) :
    (r.begins s server backend http https).Idle
      (r.eventSource.map fun source => source.asked ++ [0]) := by
  constructor
  case asked =>
    simp only [begins]
    rcases r.acquisition_cases with ⟨hnone, hacquisition⟩ | ⟨source, x, hsome, hacquisition, hx⟩
    · rw [hnone, hacquisition]
      rfl
    · rw [hsome, hacquisition, Option.map_some, Option.map_some, Option.map_some, hx.asked]
  case loop =>
    intro i hi
    obtain ⟨⟨i, a⟩, hacquisition, rfl⟩ := Option.map_eq_some_iff.mp hi
    exact (acquired_idle hnot hacquisition).1

theorem Started.idle {x : Running} (h : Started r (.ok x)) (hnot : ¬ r.Listed) :
    x.Idle (r.eventSource.map fun source => source.asked ++ [0]) := by
  cases h with
  | runs s server backend http https launched hsteps hin hlaunched hs hserver =>
    exact (begins_idle hnot s server backend http https).catchUp

/-- How a receiver fares, by what the source of its event types answers. -/
structure Degrades (r : Receiver) (result : Except StartFailure Running) : Prop where
  /-- The acquisition has ended strictly before the limit of the phase. -/
  deadline : ∀ i a, r.acquisition = some (i, a) →
    i.cache.now ≤ r.settings.startupTimeout.millis ∧
      r.settings.startupTimeout.millis < r.listing.limit.millis
  /-- The phase is begun when all before it are in time. -/
  begins : ∀ pre post, r.phases = pre ++ r.listing :: post → (∀ p ∈ pre, p.InTime r.regime) →
    Informer.name ∈ (sessionOf result).world.begunPhases
  inTime : r.listing.InTime r.regime ↔ ∀ reason, ¬ r.Refused reason
  succeeds : (∀ p ∈ r.phases, p.InTime r.regime) → ∃ x, result = .ok x
  /-- Nothing but a required permission that is missing in time fails the phase. -/
  fails : ∀ f, result = .error f → f.error.phase = Informer.name →
    ∃ reason, r.Refused reason ∧ f.error = refusal reason
  refused : ∀ reason, r.Refused reason →
    Informer.name ∈ (sessionOf result).world.begunPhases →
      ∃ f, result = .error f ∧ f.error = refusal reason
  /-- In every other case the start goes on. -/
  goesOn : (∀ reason, ¬ r.Refused reason) →
    Informer.name ∈ (sessionOf result).world.begunPhases →
      "ingress-deployment" ∈ (sessionOf result).world.begunPhases
  available : ∀ x, result = .ok x →
    (x.informer.isSome ↔ r.Listed) ∧ (x.server.index.isSome ↔ r.Listed)
  registered : ∀ x, result = .ok x →
    (Informer.name ∈ x.session.world.coordinator.entries.map (·.resource.name) ↔ r.Listed)
  closed : ∀ f, result = .error f → ∀ report,
    f.session.world.coordinator.report = some report → Informer.name ∈ report.attempted → r.Listed
  asked : ¬ r.Listed → ∀ i a, r.acquisition = some (i, a) →
    i.loop = none ∧ some i.cache.source.asked = r.eventSource.map fun s => s.asked ++ [0]
  idle : ¬ r.Listed → ∀ x, result = .ok x → ∀ operations,
    (x.serve operations).informer = none ∧
      (x.serve operations).lister.map (·.cache.source.asked) =
        r.eventSource.map fun s => s.asked ++ [0]
  told : Informer.name ∈ (sessionOf result).world.begunPhases →
    ∀ answer, r.firstAnswer = some answer →
      TellsOf (Acquisition.ofResponse r.settings.startupTimeout answer).1
        (sessionOf result).world.journal
  /-- An acquisition that is too late is told as that, and nothing else is. -/
  timedOut : Informer.name ∈ (sessionOf result).world.begunPhases →
    ∀ answer, r.firstAnswer = some answer →
      ¬ answer.ArrivesWithin r.settings.startupTimeout →
        (sessionOf result).world.journal.metrics.outcomes = [.timedOut] ∧
        ⟨.warn, "Timed out starting eventtypes; continuing without it",
          [("capability", "eventtypes"),
            ("timeout_ms", toString r.settings.startupTimeout.floorMillis)]⟩ ∈
          (sessionOf result).world.journal.lines

/-- A receiver whose source of event types never answers. -/
def unanswered : Receiver where
  settings := {
    ingress := { instances := some 1 }
    paths := { producer := "options", httpServer := "options" } }
  files := ⟨[(["options"], .file ⟨#[]⟩)]⟩
  source := some { answers := fun _ => ⟨none, .ok []⟩ }

end Receiver

end EventIntake
