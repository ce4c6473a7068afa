import EventIntake.Proofs.Lifecycle.Launching
import EventIntake.Receiver.Running

/-!
# What a start launches

The start of a receiver asks for its phases one by one.  Either all of them are in time, and the
receiver runs and holds all that its phases mention, or the first that is not ends it with what the
phases until then have launched closed again (`Receiver.runSteps_went`).  What is asked of a
receiver that runs leaves what it holds alone until the shutdown.
-/

namespace EventIntake

open Lifecycle (Action BootFailure LaunchedBy Phase Regime Resource Session)

theorem Conduct.isTimed_of_mem {c : Conduct} {a : Action Unit} (h : a ∈ c.actions) :
    a.isTimed := by
  unfold Conduct.actions at h
  split at h
  · cases List.mem_singleton.mp h
    rfl
  · rcases List.mem_cons.mp h with rfl | h
    · rfl
    · obtain ⟨message, -, rfl⟩ := List.mem_map.mp (Option.toList_map ▸ h)
      rfl

namespace Receiver

variable {r : Receiver}

def regime (r : Receiver) : Regime := ⟨r.settings.closeTimeout, true⟩

def phases (r : Receiver) : List (Phase Unit) := r.steps.map Step.phase

/-! ## The bodies of the phases -/

theorem orFail_isPlain {ε β : Type} {message : ε → String} {next : β → List (Action Unit)}
    (hnext : ∀ b, ∀ a ∈ next b, a.isPlain) (result : Except ε β) :
    ∀ a ∈ orFail message next result, a.isPlain := by
  cases result with
  | ok b => exact hnext b
  | error e => simp [orFail, Action.isPlain]

theorem metricsActions_isPlain (r : Receiver) : ∀ a ∈ r.metricsActions, a.isPlain := by
  simp only [metricsActions]
  split
  · split
    · simp [Action.isPlain]
    · exact orFail_isPlain (by simp [Action.isPlain]) _
  · simp

theorem tracingActions_isPlain (r : Receiver) : ∀ a ∈ r.tracingActions, a.isPlain := by
  intro a ha
  rcases List.mem_append.mp ha with ha | ha
  · exact r.metricsActions_isPlain a ha
  · exact orFail_isPlain (by simp [Action.isPlain]) _ a ha

theorem informerActions_isPlain (r : Receiver) : ∀ a ∈ r.informerActions, a.isPlain := by
  unfold informerActions
  split
  · simp
  · case h_2 informer a hacquisition =>
    refine List.forall_mem_cons.mpr ⟨rfl, ?_⟩
    cases a with
    | available value => simp [afterAcquisition, Action.isPlain]
    | denied reason =>
      simp only [afterAcquisition]
      split <;> simp [Action.isPlain]
    | unavailable reason => simp [afterAcquisition]
    | timedOut limit => simp [afterAcquisition]

def workers (r : Receiver) : List (List (Action Unit) × Resource (Action Unit)) :=
  (List.range (r.settings.workerCount r.host.processors)).map fun i =>
    ((r.host.starts i).actions, r.ingressWorker i)

theorem ingressActions_cases (r : Receiver) : (∃ message, r.ingressActions = [.fail message]) ∨
    r.ingressActions = [.deploy r.settings.wait r.workers] ∧ ∃ server, r.server = .ok server := by
  unfold ingressActions
  cases hserver : r.server with
  | ok server => exact .inr ⟨rfl, server, rfl⟩
  | error e => exact .inl ⟨e, rfl⟩

theorem phases_cases (r : Receiver) : ∀ p ∈ r.phases, (∀ a ∈ p.body, a.isPlain) ∨
    p.body = [.deploy r.settings.wait r.workers] := by
  simp only [phases, steps, List.map_cons, List.map_nil, List.forall_mem_cons]
  refine ⟨.inl ?_, .inl ?_, .inl ?_, .inl ?_, .inl ?_, ?_, .inl ?_, .inl ?_, by simp⟩
  · exact r.tracingActions_isPlain
  · exact orFail_isPlain (by simp) _
  · exact orFail_isPlain (by simp) _
  · exact ⟨rfl, by simp⟩
  · exact r.informerActions_isPlain
  · rcases r.ingressActions_cases with ⟨message, hbody⟩ | ⟨hbody, -⟩
    · exact .inl (by simp [hbody, Action.isPlain])
    · exact .inr hbody
  · exact ⟨rfl, rfl, by simp⟩
  · exact orFail_isPlain (by simp [Action.isPlain]) _

theorem phases_isCalm (r : Receiver) : ∀ p ∈ r.phases, p.IsCalm := by
  intro p hp
  rcases r.phases_cases p hp with hplain | hbody
  · exact .inl hplain
  · refine .inr ⟨_, _, hbody, fun x hx a ha => ?_⟩
    obtain ⟨i, -, rfl⟩ := List.mem_map.mp hx
    exact Conduct.isTimed_of_mem ha

/-! ## The steps one after the other -/

theorem front_of_split {phases pre post : List (Phase Unit)} {p : Phase Unit}
    (h : phases = pre ++ p :: post) : pre ++ [p] <+: phases :=
  ⟨post, by rw [h, List.append_assoc, List.singleton_append]⟩

variable {closeTimeout : Duration} {names : List String} {rs : List (Resource (Action Unit))}

/-- How the phases went, after those with the given names, when `rs` was held. -/
inductive Went (closeTimeout : Duration) (names : List String)
    (rs : List (Resource (Action Unit))) (phases : List (Phase Unit)) :
    Session Unit × Option BootFailure → Prop
  | through {s : Session Unit} (launched : List (Resource (Action Unit)))
      (hin : ∀ p ∈ phases, p.InTime ⟨closeTimeout, true⟩)
      (hlaunched : LaunchedBy ⟨closeTimeout, true⟩ phases launched)
      (hs : s.Starting closeTimeout (names ++ phases.map Phase.name) (rs ++ launched)) :
      Went closeTimeout names rs phases (s, none)
  | stopped {s : Session Unit} (pre : List (Phase Unit)) (p : Phase Unit)
      (post : List (Phase Unit)) (launched : List (Resource (Action Unit)))
      (hphases : phases = pre ++ p :: post) (hin : ∀ q ∈ pre, q.InTime ⟨closeTimeout, true⟩)
      (hlate : ¬ p.InTime ⟨closeTimeout, true⟩)
      (hlaunched : LaunchedBy ⟨closeTimeout, true⟩ (pre ++ [p]) launched)
      (hs : s.Aborted closeTimeout (names ++ (pre ++ [p]).map Phase.name) (rs ++ launched)) :
      Went closeTimeout names rs phases (s, some (p.failure ⟨closeTimeout, true⟩))

theorem Starting.told {s : Session Unit} (h : s.Starting closeTimeout names rs) (j : Journal) :
    Session.Starting closeTimeout names rs { s with world := { s.world with journal := j } } :=
  ⟨⟨h.ready.world.of_same rfl rfl, h.ready.threads, h.ready.spawned⟩, h.aborted, h.isFinished,
    h.begun⟩

/-- **The steps go through, or stop at the first that is not in time.** -/
theorem runSteps_went {s : Session Unit} (h : s.Starting closeTimeout names rs) (steps : List Step)
    (hcalm : ∀ p ∈ steps.map Step.phase, p.IsCalm) :
    Went closeTimeout names rs (steps.map Step.phase) (runSteps s steps) := by
  induction steps generalizing s names rs with
  | nil => exact .through [] (by simp) .nil (by simpa using h)
  | cons step rest ih =>
    obtain ⟨hfirst, hrest⟩ := List.forall_mem_cons.mp hcalm
    obtain ⟨s', launched, hlaunches, ⟨hin, v, hperform, hs, -⟩ | ⟨hlate, hperform, hs⟩⟩ :=
      (Starting.told h (step.notes s.world.journal)).phase hfirst
    · simp only [runSteps, hperform]
      have hwent := ih hs hrest
      generalize runSteps s' rest = result at hwent
      cases hwent with
      | through later hall hlater hs' =>
        refine .through (launched ++ later) (List.forall_mem_cons.mpr ⟨hin, hall⟩)
          (.cons hlaunches hlater) ?_
        simpa using hs'
      | stopped pre p post later hphases hall hlate hlater hs' =>
        refine .stopped (step.phase :: pre) p post (launched ++ later) (by simp [hphases])
          (List.forall_mem_cons.mpr ⟨hin, hall⟩) hlate (.cons hlaunches hlater) ?_
        simpa using hs'
    · simp only [runSteps, hperform]
      refine .stopped [] step.phase (rest.map Step.phase) (launched ++ []) rfl (by simp) hlate
        (.cons hlaunches .nil) ?_
      simpa using hs

theorem starting_start (closeTimeout : Duration) :
    (Session.start closeTimeout : Session Unit).Starting closeTimeout [] [] :=
  ⟨⟨⟨rfl, rfl, rfl, rfl, rfl, rfl, fun _ => rfl⟩, rfl, rfl⟩, rfl, rfl, rfl⟩

/-! ## The start -/

/-- A phase that only reads something is in time only if that is readable. -/
theorem ok_of_inTime {g : Regime} {name : String} {limit : Duration} {ε β : Type}
    {message : ε → String} {next : β → List (Action Unit)} {result : Except ε β}
    (h : (⟨name, limit, orFail message next result⟩ : Phase Unit).InTime g) :
    ∃ b, result = .ok b := by
  cases result with
  | ok b => exact ⟨b, rfl⟩
  | error e =>
    obtain ⟨d, v, hcourse, -⟩ := h
    rw [orFail, Lifecycle.actionsCourse, Action.course, Lifecycle.Course.andThen] at hcourse
    cases hcourse

/-- The same file holds the options of both listeners. -/
theorem https_ok {o : ListenerOptions} (h : r.http = .ok o) : ∃ o', r.https = .ok o' := by
  unfold http listener ListenerOptions.ofFile at h
  unfold https listener ListenerOptions.ofFile
  cases hfile : Properties.ofFile r.files r.settings.paths.httpServer with
  | ok p => exact ⟨_, rfl⟩
  | error e =>
    rw [hfile] at h
    cases h

def begins (r : Receiver) (s : Session Unit) (server : Ingress.Server) (backend : BackendOptions)
    (http https : ListenerOptions) : Running where
  session := (s.perform .finish).1
  exchange := Running.publishing r
  lister := r.acquisition.map Prod.fst
  server := server
  backend := backend
  http := http
  https := https

/-- What comes of a start. -/
inductive Started (r : Receiver) : Except StartFailure Running → Prop
  | runs (s : Session Unit) (server : Ingress.Server) (backend : BackendOptions)
      (http https : ListenerOptions) (launched : List (Resource (Action Unit)))
      (hsteps : runSteps (.start r.settings.closeTimeout) r.steps = (s, none))
      (hin : ∀ p ∈ r.phases, p.InTime r.regime) (hlaunched : LaunchedBy r.regime r.phases launched)
      (hs : s.Starting r.settings.closeTimeout (r.phases.map Phase.name) launched)
      (hserver : r.server = .ok server) :
      Started r (.ok (Running.catchUp (r.begins s server backend http https)))
  | stopped (s : Session Unit) (busClosed : Bool) (pre : List (Phase Unit)) (p : Phase Unit)
      (post : List (Phase Unit)) (launched : List (Resource (Action Unit)))
      (hsteps : runSteps (.start r.settings.closeTimeout) r.steps =
        (s, some (p.failure r.regime)))
      (hphases : r.phases = pre ++ p :: post) (hin : ∀ q ∈ pre, q.InTime r.regime)
      (hlate : ¬ p.InTime r.regime) (hlaunched : LaunchedBy r.regime (pre ++ [p]) launched)
      (hs : s.Aborted r.settings.closeTimeout ((pre ++ [p]).map Phase.name) launched) :
      Started r (.error ⟨p.failure r.regime, s, busClosed⟩)

/-- **A receiver runs when all its phases are in time, and else the first that is not ends its
start.** -/
theorem start_started (r : Receiver) : Started r (Running.start r) := by
  have hwent := runSteps_went (starting_start r.settings.closeTimeout) r.steps r.phases_isCalm
  generalize hsteps : runSteps (.start r.settings.closeTimeout) r.steps = result at hwent
  cases hwent with
  | @through s launched hin hlaunched hs =>
    have hall := hin
    simp only [steps, List.map_cons, List.map_nil, List.forall_mem_cons] at hall
    obtain ⟨-, hbackend, hhttp, -, -, hingress, -⟩ := hall
    obtain ⟨backend, hbackend⟩ := ok_of_inTime hbackend
    obtain ⟨http, hhttp⟩ := ok_of_inTime hhttp
    obtain ⟨https, hhttps⟩ := https_ok hhttp
    obtain ⟨server, hserver⟩ := ok_of_inTime hingress
    have hstart : Running.start r =
        .ok (Running.catchUp (r.begins s server backend http https)) := by
      simp only [Running.start, hsteps, hserver, hbackend, hhttp, hhttps, begins]
    rw [hstart]
    exact .runs s server backend http https launched hsteps hin hlaunched hs hserver
  | @stopped s pre p post launched hphases hin hlate hlaunched hs =>
    have hstart : ∃ busClosed, Running.start r = .error ⟨p.failure r.regime, s, busClosed⟩ := by
      simp only [Running.start, hsteps]
      exact ⟨_, rfl⟩
    obtain ⟨busClosed, hstart⟩ := hstart
    rw [hstart]
    exact .stopped s busClosed pre p post launched hsteps hphases hin hlate hlaunched hs

end Receiver

/-! ## Running -/

namespace Running

/-- What may be asked of a receiver that runs. -/
inductive Operation where
  | sleep (time : Duration)
  | request (network : Net.Network) (request : Ingress.Request)
  | shutDown (cause : Lifecycle.Cause)

def Operation.isService : Operation → Bool
  | .sleep _ | .request _ _ => true
  | .shutDown _ => false

def operate (x : Running) : Operation → Running
  | .sleep time => x.sleep time
  | .request network request =>
    match x.request network request with
    | .ok (x, _) => x
    | .error _ => x
  | .shutDown cause => (x.shutDown cause).1

def serve (x : Running) (operations : List Operation) : Running := operations.foldl operate x

/-- A receiver that runs and holds `rs`. -/
abbrev Holds (x : Running) (closeTimeout : Duration) (rs : List (Resource (Action Unit))) : Prop :=
  x.session.Ready closeTimeout .running rs

variable {x : Running} {closeTimeout : Duration} {rs : List (Resource (Action Unit))}

theorem begunPhases_catchUp (x : Running) :
    x.catchUp.session.world.begunPhases = x.session.world.begunPhases := by
  unfold Running.catchUp
  split <;> rfl

theorem Holds.catchUp (h : x.Holds closeTimeout rs) : x.catchUp.Holds closeTimeout rs := by
  unfold Running.catchUp
  split
  · exact h
  · exact ⟨h.world.of_same rfl rfl, h.threads, h.spawned⟩

theorem request_session {x' : Running} {network : Net.Network} {request : Ingress.Request}
    {response : Ingress.Response} (h : x.request network request = .ok (x', response)) :
    x'.session = x.session ∧ x'.lister = x.lister := by
  unfold Running.request at h
  simp only [bind, Except.bind] at h
  split at h
  · cases h
  · cases h
    exact ⟨rfl, rfl⟩

theorem holds_begins (r : Receiver) {s : Session Unit} {names : List String}
    (h : s.Starting closeTimeout names rs) (server : Ingress.Server) (backend : BackendOptions)
    (http https : ListenerOptions) :
    (r.begins s server backend http https).catchUp.Holds closeTimeout rs ∧
      (r.begins s server backend http https).catchUp.session.world.begunPhases = names := by
  obtain ⟨s', hperform, hs, hbegun⟩ := h.finish
  have hsession : (r.begins s server backend http https).session = s' := by
    rw [Receiver.begins, hperform]
  refine ⟨Holds.catchUp (by rw [Holds, hsession]; exact hs), ?_⟩
  rw [begunPhases_catchUp, hsession, hbegun]

/-- **Until the shutdown a receiver holds what it launched.** -/
theorem Holds.serve (h : x.Holds closeTimeout rs) {operations : List Operation}
    (hservice : ∀ o ∈ operations, o.isService) : (x.serve operations).Holds closeTimeout rs := by
  induction operations generalizing x with
  | nil => exact h
  | cons o rest ih =>
    obtain ⟨hfirst, hrest⟩ := List.forall_mem_cons.mp hservice
    refine ih ?_ hrest
    cases o with
    | sleep time =>
      obtain ⟨s', hperform, hs, -⟩ := h.sleep time
      simp only [operate, Running.sleep, hperform]
      split
      · exact hs
      · exact Holds.catchUp hs
    | request network request =>
      simp only [operate]
      split
      · case h_1 hok =>
        rw [Holds, (request_session hok).1]
        exact h
      · exact h
    | shutDown cause => cases hfirst

end Running

end EventIntake
