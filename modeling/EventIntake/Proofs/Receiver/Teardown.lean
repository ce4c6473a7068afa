import EventIntake.Proofs.Receiver.Launch

/-!
# The teardown of a receiver

The order in which a receiver is torn down is written down nowhere: it comes of the order in which
its phases register and of the stages of what they register.  `teardownRank` states it, and whatever
a receiver has launched is closed in that order, once its start has stopped as well as after it has
run (`Receiver.start_tearsDown`).
-/

namespace EventIntake

open Capability (Informer)
open Lifecycle (Action Entry LaunchedBy Phase Report Resource closingOrder entriesOf)

/-- The place of a resource in the teardown: what listens for signals is closed first, then what
watches the contract, what publishes it, the workers of the ingress, the informer, the bus, the
tracing and the metrics. -/
def teardownRank (name : String) : Nat :=
  if name = Receiver.listenerName then 0
  else if name = Watch.name then 1
  else if name = Publisher.name then 2
  else if name = Informer.name then 4
  else if name = Bus.name then 5
  else if name = Receiver.tracerName then 6
  else if name = Receiver.exporterName then 7
  else 3

/-- Whether a resource needs another one to do its work: workers and the publisher send on the bus,
and the watch drives the publisher. -/
inductive Uses : String → String → Prop
  | worker (i : Nat) : Uses (Ingress.workerName i) Bus.name
  | publisher : Uses Publisher.name Bus.name
  | watch : Uses Watch.name Publisher.name
  | watchBus : Uses Watch.name Bus.name

/-- The closes that were attempted are of what was launched, each once, and in the order of the
teardown: whatever uses something is closed before it. -/
structure ClosesInOrder (launched attempted : List String) : Prop where
  perm : attempted.Perm launched
  nodup : attempted.Nodup
  order : attempted.Pairwise fun a b => teardownRank a ≤ teardownRank b
  users : attempted.Pairwise fun a b => ¬ Uses b a

theorem workerName_ne {name : String} (h : name.toList.head? ≠ some 'i') (i : Nat) :
    Ingress.workerName i ≠ name := by
  rintro rfl
  simp [Ingress.workerName] at h

theorem workerName_injective : Function.Injective Ingress.workerName := by
  intro i j h
  have hrepr : Nat.repr i = Nat.repr j := (String.append_right_inj _).mp h
  rw [← Nat.ofDigitChars_ten_toDigits (n := i), ← Nat.toList_repr, hrepr, Nat.toList_repr,
    Nat.ofDigitChars_ten_toDigits]

@[simp] theorem teardownRank_workerName (i : Nat) : teardownRank (Ingress.workerName i) = 3 := by
  have hne : ∀ name ∈ [Receiver.listenerName, Watch.name, Publisher.name, Informer.name, Bus.name,
      Receiver.tracerName, Receiver.exporterName], Ingress.workerName i ≠ name := by
    intro name hname
    refine workerName_ne ?_ i
    revert name
    decide
  simp only [List.forall_mem_cons] at hne
  simp [teardownRank, hne]

theorem Uses.rank_lt {a b : String} (h : Uses a b) : teardownRank a < teardownRank b := by
  cases h with
  | worker i =>
    rw [teardownRank_workerName]
    decide
  | publisher => decide
  | watch => decide
  | watchBus => decide

/-- Of two resources the second, which was registered later, may be closed first. -/
def Lifecycle.Resource.Later (a b : Resource (Action Unit)) : Prop :=
  teardownRank b.name ≤ teardownRank a.name ∧ b.stage.rank ≤ a.stage.rank

/-- Of two entries the one with the lower ticket is the earlier one. -/
structure Lifecycle.Entry.Aligned (e f : Entry Unit) : Prop where
  lt : e.ticket < f.ticket → e.resource.Later f.resource
  gt : f.ticket < e.ticket → f.resource.Later e.resource
  eq : e.ticket = f.ticket → e = f

instance : Std.Symm Lifecycle.Entry.Aligned where
  symm _ _ h := ⟨h.gt, h.lt, fun hticket => (h.eq hticket.symm).symm⟩

theorem Lifecycle.Entry.aligned_of_pairwise {l : List (Entry Unit)}
    (hlater : l.Pairwise fun e f => e.resource.Later f.resource)
    (horder : l.Pairwise fun e f => e.ticket < f.ticket) {e f : Entry Unit} (he : e ∈ l)
    (hf : f ∈ l) : e.Aligned f := by
  have hself : ∀ e ∈ l, e.Aligned e := fun e _ =>
    ⟨fun h => absurd h (Nat.lt_irrefl _), fun h => absurd h (Nat.lt_irrefl _), fun _ => rfl⟩
  refine List.Pairwise.forall_of_forall hself ?_ he hf
  exact (hlater.and horder).imp fun {e f} ⟨hlater, hlt⟩ =>
    ⟨fun _ => hlater, fun h => absurd h (Nat.lt_asymm hlt), fun h => absurd h (Nat.ne_of_lt hlt)⟩

theorem entriesOf_aligned {rs : List (Resource (Action Unit))} (hlater : rs.Pairwise Resource.Later)
    {e f : Entry Unit} (he : e ∈ entriesOf rs) (hf : f ∈ entriesOf rs) : e.Aligned f := by
  have hentries : (entriesOf rs).Pairwise fun e f => e.resource.Later f.resource := by
    rw [← List.pairwise_map, Lifecycle.entriesOf_resources]
    exact hlater
  exact Entry.aligned_of_pairwise hentries (Lifecycle.entriesOf_pairwise rs) he hf

/-- **Stages and the reversed order of registration give the order of the teardown.** -/
theorem closesInOrder {rs : List (Resource (Action Unit))} {launched : List String}
    (hperm : (rs.map Resource.name).Perm launched) (hnodup : (rs.map Resource.name).Nodup)
    (hlater : rs.Pairwise Resource.Later) :
    ClosesInOrder launched ((closingOrder (entriesOf rs)).map (·.resource.name)) := by
  have hnames : ((closingOrder (entriesOf rs)).map (·.resource.name)).Perm
      (rs.map Resource.name) := by
    have hmap := (Lifecycle.closingOrder_perm (entriesOf rs)).map (·.resource.name)
    rwa [Lifecycle.entriesOf_names] at hmap
  have horder : ((closingOrder (entriesOf rs)).map (·.resource.name)).Pairwise
      fun a b => teardownRank a ≤ teardownRank b := by
    rw [List.pairwise_map]
    refine (Lifecycle.closingOrder_pairwise (Lifecycle.entriesOf_pairwise rs)).imp_of_mem ?_
    intro e f he hf hbefore
    obtain ⟨hlt, hgt, heq⟩ := entriesOf_aligned hlater
      ((Lifecycle.closingOrder_perm _).mem_iff.mp he)
      ((Lifecycle.closingOrder_perm _).mem_iff.mp hf)
    rcases hbefore with hstage | ⟨-, hticket⟩
    · -- what has an earlier stage was not registered before
      rcases Nat.lt_trichotomy e.ticket f.ticket with hticket | hticket | hticket
      · exact absurd (hlt hticket).2 (Nat.not_le.mpr hstage)
      · exact absurd (heq hticket ▸ hstage) (Nat.lt_irrefl _)
      · exact (hgt hticket).1
    · exact (hgt hticket).1
  refine ⟨hnames.trans hperm, hnames.nodup_iff.mpr hnodup, horder, ?_⟩
  exact horder.imp fun {a b} hle (huses : Uses b a) => Nat.not_lt.mpr hle huses.rank_lt

namespace Receiver

variable {r : Receiver}

/-! ## What a receiver may launch -/

/-- All that a receiver may launch, in the order of its phases. -/
def resources (r : Receiver) : List (Resource (Action Unit)) :=
  [r.metricsExporter, r.tracerProvider, r.eventBus, r.eventTypeInformer]
    ++ (r.workers.map Prod.snd ++ [r.contractPublisher, r.contractWatcher, r.signalListener])

theorem orFail_mentions {ε β : Type} {message : ε → String} {next : β → List (Action Unit)}
    {rs : List (Resource (Action Unit))}
    (hnext : ∀ b, ((next b).flatMap Action.resources).Sublist rs) (result : Except ε β) :
    ((orFail message next result).flatMap Action.resources).Sublist rs := by
  cases result with
  | ok b => exact hnext b
  | error e => exact List.nil_sublist _

theorem metricsActions_mentions (r : Receiver) :
    (r.metricsActions.flatMap Action.resources).Sublist [r.metricsExporter] := by
  simp only [metricsActions]
  split
  · split
    · exact List.nil_sublist _
    · exact orFail_mentions (fun _ => .refl _) _
  · exact List.nil_sublist _

theorem informerActions_mentions (r : Receiver) :
    (r.informerActions.flatMap Action.resources).Sublist [r.eventTypeInformer] := by
  unfold informerActions
  split
  · exact List.nil_sublist _
  · case h_2 informer a hacquisition =>
    cases a with
    | available value => exact .refl _
    | denied reason =>
      simp only [afterAcquisition]
      split <;> exact List.nil_sublist _
    | unavailable reason => exact List.nil_sublist _
    | timedOut limit => exact List.nil_sublist _

theorem ingressActions_mentions (r : Receiver) :
    (r.ingressActions.flatMap Action.resources).Sublist (r.workers.map Prod.snd) := by
  rcases r.ingressActions_cases with ⟨message, hbody⟩ | ⟨hbody, -⟩
  · rw [hbody]
    exact List.nil_sublist _
  · rw [hbody, List.flatMap_singleton]
    exact .refl _

theorem mentions_sublist_informer (r : Receiver) : (r.phases.flatMap Phase.mentions).Sublist
    ([r.metricsExporter, r.tracerProvider, r.eventBus] ++
      (r.informerActions.flatMap Action.resources ++ (r.workers.map Prod.snd ++
        [r.contractPublisher, r.contractWatcher, r.signalListener]))) := by
  have hnothing : ∀ {ε β : Type} (message : ε → String) (result : Except ε β),
      ((orFail message (fun _ => []) result).flatMap Action.resources).Sublist [] :=
    fun _ result => orFail_mentions (fun _ => .refl _) result
  have htracing : (r.tracingActions.flatMap Action.resources).Sublist
      ([r.metricsExporter] ++ [r.tracerProvider]) := by
    rw [tracingActions, List.flatMap_append]
    exact r.metricsActions_mentions.append (orFail_mentions (fun _ => .refl _) _)
  have hlistener : ((orFail id (fun _ => [.register r.signalListener]) r.host.signals).flatMap
      Action.resources).Sublist [r.signalListener] := orFail_mentions (fun _ => .refl _) _
  simp only [phases, steps, List.map_cons, List.map_nil, List.flatMap_cons, List.flatMap_nil]
  refine htracing.append ((hnothing _ _).append ((hnothing _ _).append ?_))
  refine (List.Sublist.refl [r.eventBus]).append ((List.Sublist.refl _).append ?_)
  refine r.ingressActions_mentions.append ?_
  refine (List.Sublist.refl [r.contractPublisher, r.contractWatcher]).append ?_
  exact hlistener.append (.refl [])

theorem mentions_sublist (r : Receiver) :
    (r.phases.flatMap Phase.mentions).Sublist r.resources :=
  r.mentions_sublist_informer.trans
    ((List.Sublist.refl _).append (r.informerActions_mentions.append (.refl _)))

theorem workers_names (r : Receiver) : (r.workers.map Prod.snd).map Resource.name =
    (List.range (r.settings.workerCount r.host.processors)).map Ingress.workerName := by
  simp only [workers, List.map_map]
  rfl

theorem workers_last (r : Receiver) :
    ∀ x ∈ r.workers.map Prod.snd, teardownRank x.name = 3 ∧ x.stage = .background := by
  intro x hx
  simp only [workers, List.map_map, List.mem_map] at hx
  obtain ⟨i, -, rfl⟩ := hx
  exact ⟨teardownRank_workerName i, rfl⟩

theorem resources_later (r : Receiver) : r.resources.Pairwise Resource.Later := by
  -- names and stages alone decide
  have hkeys : r.resources.map (fun x => (teardownRank x.name, x.stage.rank)) =
      [(7, 2), (6, 2), (5, 1), (4, 0)] ++
        (List.replicate r.workers.length (3, 0) ++ [(2, 0), (1, 0), (0, 0)]) := by
    have hworkers : (r.workers.map Prod.snd).map (fun x => (teardownRank x.name, x.stage.rank)) =
        List.replicate r.workers.length (3, 0) := by
      refine List.eq_replicate_iff.mpr ⟨by simp, fun key hkey => ?_⟩
      obtain ⟨x, hx, rfl⟩ := List.mem_map.mp hkey
      obtain ⟨hname, hstage⟩ := r.workers_last x hx
      rw [hname, hstage]
      rfl
    rw [resources, List.map_append, List.map_append, hworkers]
    rfl
  have hpairwise : ([(7, 2), (6, 2), (5, 1), (4, 0)] ++
      (List.replicate r.workers.length (3, 0) ++ [(2, 0), (1, 0), (0, 0)])).Pairwise
      fun a b : Nat × Nat => b.1 ≤ a.1 ∧ b.2 ≤ a.2 := by
    refine List.pairwise_append.mpr ⟨by decide, List.pairwise_append.mpr ⟨?_, by decide, ?_⟩, ?_⟩
    · exact List.pairwise_replicate.mpr (.inr ⟨Nat.le_refl _, Nat.le_refl _⟩)
    · intro a ha
      obtain rfl := List.eq_of_mem_replicate ha
      decide
    · have hworker : ∀ a ∈ [(7, 2), (6, 2), (5, 1), (4, 0)], 3 ≤ a.1 ∧ 0 ≤ a.2 := by decide
      have hlast : ∀ a ∈ [(7, 2), (6, 2), (5, 1), (4, 0)], ∀ b ∈ [(2, 0), (1, 0), (0, 0)],
          b.1 ≤ a.1 ∧ b.2 ≤ a.2 := by decide
      intro a ha b hb
      rcases List.mem_append.mp hb with hb | hb
      · obtain rfl := List.eq_of_mem_replicate hb
        exact hworker a ha
      · exact hlast a ha b hb
  rw [← hkeys, List.pairwise_map] at hpairwise
  exact hpairwise

theorem resources_nodup (r : Receiver) : (r.resources.map Resource.name).Nodup := by
  have hmap : r.resources.map Resource.name =
      [exporterName, tracerName, Bus.name, Informer.name] ++
        ((List.range (r.settings.workerCount r.host.processors)).map Ingress.workerName ++
          [Publisher.name, Watch.name, listenerName]) := by
    rw [resources, List.map_append, List.map_append, r.workers_names]
    rfl
  have hworker : ∀ name ∈ (List.range (r.settings.workerCount r.host.processors)).map
      Ingress.workerName, teardownRank name = 3 := by
    intro name hname
    obtain ⟨i, -, rfl⟩ := List.mem_map.mp hname
    exact teardownRank_workerName i
  have hfirst : ∀ name ∈ [exporterName, tracerName, Bus.name, Informer.name],
      3 < teardownRank name := by decide
  have hlast : ∀ name ∈ [Publisher.name, Watch.name, listenerName], teardownRank name < 3 := by
    decide
  rw [hmap]
  refine List.nodup_append.mpr ⟨by decide, List.nodup_append.mpr ⟨?_, by decide, ?_⟩, ?_⟩
  · exact List.nodup_range.map workerName_injective
  · rintro a ha b hb rfl
    exact absurd (hworker a ha) (Nat.ne_of_lt (hlast a hb))
  · rintro a ha b hb rfl
    rcases List.mem_append.mp hb with hb | hb
    · exact absurd (hworker a hb) (Nat.ne_of_gt (hfirst a ha))
    · exact absurd (hfirst a ha) (Nat.lt_asymm (hlast a hb))

/-- Whatever phases launch one after the other is in the order of its registration. -/
theorem launched_later {phases : List (Phase Unit)} {launched : List (Resource (Action Unit))}
    (hphases : phases <+: r.phases) (h : LaunchedBy r.regime phases launched) :
    launched.Pairwise Resource.Later ∧ (launched.map Resource.name).Nodup := by
  have hcalm : ∀ p ∈ phases, p.IsCalm := fun p hp => r.phases_isCalm p (hphases.subset hp)
  have hmentions : (phases.flatMap Phase.mentions).Sublist r.resources := by
    obtain ⟨post, hpost⟩ := hphases
    have hall := r.mentions_sublist
    rw [← hpost, List.flatMap_append] at hall
    exact (List.sublist_append_left _ _).trans hall
  have hany : ∀ p ∈ phases, (∀ a ∈ p.body, a.isPlain) ∨
      ∀ x ∈ p.mentions, ∀ y ∈ p.mentions, Resource.Later x y := by
    intro p hp
    rcases r.phases_cases p (hphases.subset hp) with hplain | hbody
    · exact .inl hplain
    · refine .inr fun x hx y hy => ?_
      rw [Phase.mentions, hbody, List.flatMap_singleton] at hx hy
      obtain ⟨hxname, hxstage⟩ := r.workers_last x hx
      obtain ⟨hyname, hystage⟩ := r.workers_last y hy
      rw [Resource.Later, hxname, hyname, hxstage, hystage]
      exact ⟨Nat.le_refl _, Nat.le_refl _⟩
  refine ⟨h.pairwise hcalm (r.resources_later.sublist hmentions) hany, ?_⟩
  obtain ⟨l, hl, hsublist⟩ := (h.subperm hcalm).trans hmentions.subperm
  exact (hl.map Resource.name).nodup_iff.mp ((hsublist.map Resource.name).nodup r.resources_nodup)

/-! ## What was launched -/

def launchedIn (r : Receiver) (begun : List String) : List String :=
  ((r.phases.filter fun p => p.name ∈ begun).flatMap fun p =>
    p.resources ++ p.deployed r.regime).map Resource.name

def launchedNames (r : Receiver) : List String :=
  (if r.settings.observability.metricsEnabled then [exporterName] else []) ++ [tracerName, Bus.name]
    ++ (if r.informer.isSome then [Informer.name] else [])
    ++ (List.range (r.settings.workerCount r.host.processors)).map Ingress.workerName
    ++ [Publisher.name, Watch.name, listenerName]

def phaseNames : List String :=
  ["tracing", "backend-client-config", "server-options", "event-bus", "event-type-informer",
    "ingress-deployment", "contract-watcher", "shutdown-hook"]

theorem phases_names (r : Receiver) : r.phases.map Phase.name = phaseNames := rfl

theorem filter_mem_front {β : Type} {f : β → String} {front rest : List β}
    (h : ((front ++ rest).map f).Nodup) :
    (front ++ rest).filter (fun x => f x ∈ front.map f) = front := by
  rw [List.map_append, List.nodup_append] at h
  rw [List.filter_append]
  have hfront : front.filter (fun x => f x ∈ front.map f) = front :=
    List.filter_eq_self.mpr fun x hx => decide_eq_true (List.mem_map_of_mem hx)
  have hrest : rest.filter (fun x => f x ∈ front.map f) = [] :=
    List.filter_eq_nil_iff.mpr fun x hx hmem =>
      h.2.2 (f x) (of_decide_eq_true hmem) (f x) (List.mem_map_of_mem hx) rfl
  rw [hfront, hrest, List.append_nil]

theorem launchedIn_perm {front : List (Phase Unit)} {launched : List (Resource (Action Unit))}
    (hfront : front <+: r.phases) (h : LaunchedBy r.regime front launched) :
    (launched.map Resource.name).Perm (r.launchedIn (front.map Phase.name)) := by
  obtain ⟨rest, hrest⟩ := hfront
  have hnodup : ((front ++ rest).map Phase.name).Nodup := by
    rw [hrest, r.phases_names]
    decide
  rw [launchedIn, ← hrest, filter_mem_front hnodup]
  exact h.perm.map _

theorem ok_of_fail_notMem {ε β : Type} {message : ε → String} {next : β → List (Action Unit)}
    {result : Except ε β} (h : ∀ e, Action.fail e ∉ orFail message next result) :
    ∃ b, result = .ok b := by
  cases result with
  | ok b => exact ⟨b, rfl⟩
  | error e => exact absurd List.mem_cons_self (h (message e))

theorem tracing_mentions (h : ∀ e, Action.fail e ∉ r.tracingActions) :
    (r.tracingActions.flatMap Action.resources).map Resource.name =
      (if r.settings.observability.metricsEnabled then [exporterName] else []) ++ [tracerName] := by
  have hmetrics : ∀ e, Action.fail e ∉ r.metricsActions := fun e he =>
    h e (List.mem_append_left _ he)
  obtain ⟨tracing, htracing⟩ := ok_of_fail_notMem fun e he => h e (List.mem_append_right _ he)
  rw [tracingActions, htracing, List.flatMap_append, List.map_append]
  congr 1
  simp only [metricsActions] at hmetrics ⊢
  split
  · case isTrue henabled =>
    rw [if_pos henabled] at hmetrics
    split at hmetrics
    · exact absurd List.mem_cons_self (hmetrics _)
    · obtain ⟨address, haddress⟩ := ok_of_fail_notMem hmetrics
      rw [haddress]
      rfl
  · rfl

theorem informer_mentions (r : Receiver) :
    (r.informerActions.flatMap Action.resources).map Resource.name =
      if r.informer.isSome then [Informer.name] else [] := by
  unfold informerActions informer
  cases r.acquisition with
  | none => rfl
  | some x =>
    obtain ⟨informer, a⟩ := x
    cases a with
    | available value => rfl
    | denied reason =>
      simp only [afterAcquisition]
      split <;> rfl
    | unavailable reason => rfl
    | timedOut limit => rfl

/-- **A receiver whose phases are all in time has launched all that its settings ask for.** -/
theorem mentions_names (hin : ∀ p ∈ r.phases, p.InTime r.regime) :
    (r.phases.flatMap Phase.mentions).map Resource.name = r.launchedNames := by
  simp only [phases, steps, List.map_cons, List.map_nil, List.forall_mem_cons] at hin
  obtain ⟨⟨d, v, htracing, -⟩, hbackend, hhttp, -, -, hingress, -, hsignals, -⟩ := hin
  have htracing := tracing_mentions
    (Lifecycle.fail_notMem_of_ok rfl r.tracingActions_isPlain htracing)
  obtain ⟨backend, hbackend⟩ := ok_of_inTime hbackend
  obtain ⟨http, hhttp⟩ := ok_of_inTime hhttp
  obtain ⟨server, hserver⟩ := ok_of_inTime hingress
  obtain ⟨signals, hsignals⟩ := ok_of_inTime hsignals
  have hworkers : (r.ingressActions.flatMap Action.resources).map Resource.name =
      (List.range (r.settings.workerCount r.host.processors)).map Ingress.workerName := by
    rw [← r.workers_names]
    rcases r.ingressActions_cases with ⟨message, hbody⟩ | ⟨hbody, -⟩
    · rw [ingressActions, hserver] at hbody
      cases hbody
    · rw [hbody, List.flatMap_singleton]
      rfl
  have hphases : (r.phases.flatMap Phase.mentions).map Resource.name =
      (r.tracingActions.flatMap Action.resources).map Resource.name ++ ([Bus.name] ++
        ((r.informerActions.flatMap Action.resources).map Resource.name ++
          ((r.ingressActions.flatMap Action.resources).map Resource.name ++
            [Publisher.name, Watch.name, listenerName]))) := by
    simp only [phases, steps, List.map_cons, List.map_nil, List.flatMap_cons, List.flatMap_nil,
      Phase.mentions, hbackend, hhttp, hsignals, List.map_append]
    rfl
  rw [hphases, htracing, r.informer_mentions, hworkers, launchedNames]
  simp only [List.append_assoc, List.cons_append, List.nil_append]

theorem launchedNames_perm {launched : List (Resource (Action Unit))}
    (hin : ∀ p ∈ r.phases, p.InTime r.regime) (h : LaunchedBy r.regime r.phases launched) :
    (launched.map Resource.name).Perm r.launchedNames := by
  rw [← mentions_names hin]
  exact (h.perm_of_inTime rfl r.phases_isCalm hin).map _

end Receiver

/-! ## The shutdown of a receiver that runs -/

namespace Running

variable {x : Running} {closeTimeout : Duration} {rs : List (Resource (Action Unit))}

/-- A resource with its close as it is with the informer `i`. -/
def closingOf (i : Informer) (r : Resource (Action Unit)) : Resource (Action Unit) :=
  if r.name = Informer.name then { r with close := informerClose i ++ r.close } else r

theorem closingOf_name (i : Informer) (r : Resource (Action Unit)) :
    (closingOf i r).name = r.name ∧ (closingOf i r).stage = r.stage := by
  unfold closingOf
  split <;> exact ⟨rfl, rfl⟩

/-- How the informer is closed depends on the instant, and nothing else does. -/
theorem Holds.closing (h : x.Holds closeTimeout rs) :
    ∃ close : Resource (Action Unit) → Resource (Action Unit),
      (∀ r, (close r).name = r.name ∧ (close r).stage = r.stage) ∧
      x.closing.Ready closeTimeout .running (rs.map close) := by
  unfold Running.closing
  split
  · exact ⟨id, fun r => ⟨rfl, rfl⟩, by rw [List.map_id]; exact h⟩
  · case h_2 i hinformer =>
    refine ⟨closingOf i, closingOf_name i, ⟨?_, h.threads, h.spawned⟩⟩
    obtain ⟨htimeout, haccepting, hreport, hstate, hissued, hentries, hbegun⟩ := h.world
    refine ⟨htimeout, haccepting, hreport, hstate, by rw [List.length_map]; exact hissued, ?_,
      hbegun⟩
    change x.session.world.coordinator.entries.map _ = _
    rw [hentries, Lifecycle.entriesOf_map]
    refine List.map_congr_left fun e _ => ?_
    simp only [closingOf]
    split <;> rfl

/-- **A receiver that runs is closed in the order of the teardown, whatever its closes do.** -/
theorem Holds.shutDown (h : x.Holds closeTimeout rs) {launched : List String}
    (hperm : (rs.map Resource.name).Perm launched) (hnodup : (rs.map Resource.name).Nodup)
    (hlater : rs.Pairwise Resource.Later) (cause : Lifecycle.Cause) :
    (x.shutDown cause).1.session.world.coordinator.state = .stopped ∧
      ∃ report, (x.shutDown cause).2 = some report ∧ report.cause = cause ∧
        ClosesInOrder launched report.attempted := by
  obtain ⟨close, hclose, hclosing⟩ := h.closing
  obtain ⟨s', hperform, hstate⟩ := hclosing.shutDown cause
  have hnames : (rs.map close).map Resource.name = rs.map Resource.name := by
    rw [List.map_map]
    exact List.map_congr_left fun r _ => (hclose r).1
  have hlater' : (rs.map close).Pairwise Resource.Later := by
    rw [List.pairwise_map]
    refine hlater.imp fun {a b} hab => ?_
    rw [Resource.Later, (hclose a).1, (hclose b).1, (hclose a).2, (hclose b).2]
    exact hab
  have hspawned : x.session.spawned.length = 0 := by rw [h.spawned]; rfl
  simp only [Running.shutDown, hspawned, hperform]
  refine ⟨hstate, _, rfl, rfl, ?_⟩
  exact closesInOrder (by rw [hnames]; exact hperm) (by rw [hnames]; exact hnodup) hlater'

end Running

namespace Receiver

/-- How a receiver is torn down that was started with this result. -/
structure TearsDown (r : Receiver) (result : Except StartFailure Running) : Prop where
  /-- A start that stopped has closed what the phases that have begun had launched. -/
  stopped : ∀ f, result = .error f →
    f.session.world.coordinator.state = .stopped ∧
    (∃ before, f.session.world.begunPhases = before ++ [f.error.phase] ∧
      f.session.world.begunPhases <+: phaseNames) ∧
    ∃ report, f.session.world.coordinator.report = some report ∧ report.cause = .fatalBootstrap ∧
      ClosesInOrder (r.launchedIn f.session.world.begunPhases) report.attempted
  /-- A receiver that has started runs until its shutdown, and that closes all it had launched. -/
  runs : ∀ x, result = .ok x → ∀ operations : List Running.Operation,
    (∀ o ∈ operations, o.isService) →
      (x.serve operations).session.world.coordinator.state = .running ∧
      ∀ cause, ((x.serve operations).shutDown cause).1.session.world.coordinator.state = .stopped ∧
        ∃ report, ((x.serve operations).shutDown cause).2 = some report ∧ report.cause = cause ∧
          ClosesInOrder r.launchedNames report.attempted

/-- **A receiver is torn down in the order of its dependencies, at whichever point its start
stopped, and after it has run.** -/
theorem start_tearsDown (r : Receiver) : r.TearsDown (Running.start r) := by
  have hstarted := r.start_started
  generalize Running.start r = result at hstarted
  cases hstarted with
  | runs s server backend http https launched hsteps hin hlaunched hs hserver =>
    obtain ⟨hlater, hnodup⟩ := launched_later List.prefix_rfl hlaunched
    have hperm := launchedNames_perm hin hlaunched
    refine ⟨fun f hf => by (cases hf), fun x hx operations hservice => ?_⟩
    cases hx
    have hholds := (Running.holds_begins r hs server backend http https).1.serve hservice
    exact ⟨hholds.world.state, hholds.shutDown hperm hnodup hlater⟩
  | stopped s busClosed pre p post launched hsteps hphases hin hlate hlaunched hs =>
    have hfront := front_of_split hphases
    obtain ⟨hlater, hnodup⟩ := launched_later hfront hlaunched
    refine ⟨fun f hf => ?_, fun x hx => by (cases hx)⟩
    cases hf
    refine ⟨hs.state, ⟨pre.map Phase.name, ?_, ?_⟩, _, hs.report, rfl, ?_⟩
    · rw [hs.begun, Phase.failure_phase, List.map_append]
      rfl
    · rw [hs.begun, ← r.phases_names]
      exact hfront.map _
    · rw [hs.begun]
      exact closesInOrder (launchedIn_perm hfront hlaunched) hnodup hlater

end Receiver

end EventIntake
