import EventIntake.Proofs.Lifecycle.Teardown

/-!
# What the coordinator holds

Before the shutdown the coordinator holds what was handed over, in the order in which it was, and
the pass that the first trigger begins goes over all of it: by stages, and latest first within one.
-/

namespace EventIntake.Lifecycle

variable {α : Type}

/-- Whether the first resource has to be closed before the second. -/
def Entry.ClosesBefore (e f : Entry α) : Prop :=
  e.resource.stage.rank < f.resource.stage.rank ∨
    e.resource.stage = f.resource.stage ∧ f.ticket < e.ticket

/-- **Closing by stages closes what was registered last first within a stage.** -/
theorem closingOrder_pairwise {entries : List (Entry α)}
    (h : entries.Pairwise fun e f => e.ticket < f.ticket) :
    (closingOrder entries).Pairwise Entry.ClosesBefore := by
  have hreverse : entries.reverse.Pairwise fun e f => f.ticket < e.ticket :=
    List.pairwise_reverse.mpr h
  -- within a stage the order is that of the reversed list
  have hstage : ∀ s : Stage, (entries.reverse.filter fun e => e.resource.stage == s).Pairwise
      Entry.ClosesBefore := by
    intro s
    refine List.Pairwise.imp_of_mem ?_ (hreverse.filter _)
    intro e f he hf hlt
    have hes := eq_of_beq (List.mem_filter.mp he).2
    have hfs := eq_of_beq (List.mem_filter.mp hf).2
    exact .inr ⟨hes.trans hfs.symm, hlt⟩
  have hacross : ∀ s t : Stage, s.rank < t.rank →
      ∀ e ∈ entries.reverse.filter (fun e => e.resource.stage == s),
        ∀ f ∈ entries.reverse.filter (fun e => e.resource.stage == t), e.ClosesBefore f := by
    intro s t hst e he f hf
    have hes := eq_of_beq (List.mem_filter.mp he).2
    have hft := eq_of_beq (List.mem_filter.mp hf).2
    refine .inl ?_
    rw [hes, hft]
    exact hst
  simp only [closingOrder, Stage.all, List.flatMap_cons, List.flatMap_nil, List.append_nil]
  refine List.pairwise_append.mpr ⟨hstage _, List.pairwise_append.mpr ⟨hstage _, hstage _,
    hacross _ _ (by decide)⟩, fun e he f hf => ?_⟩
  rcases List.mem_append.mp hf with hf | hf
  · exact hacross _ _ (by decide) e he f hf
  · exact hacross _ _ (by decide) e he f hf

/-- What the coordinator holds once these were handed over, the first one with ticket `0`. -/
def entriesOf (rs : List (Resource (Action α))) : List (Entry α) :=
  rs.zipIdx.map fun (r, i) => ⟨i, r⟩

theorem entriesOf_concat (rs : List (Resource (Action α))) (r : Resource (Action α)) :
    entriesOf (rs ++ [r]) = entriesOf rs ++ [⟨rs.length, r⟩] := by
  simp [entriesOf, List.zipIdx_append]

theorem entriesOf_tickets (rs : List (Resource (Action α))) :
    (entriesOf rs).map Entry.ticket = List.range rs.length := by
  rw [entriesOf, List.map_map, List.range_eq_range']
  exact List.zipIdx_map_snd 0 rs

theorem entriesOf_resources (rs : List (Resource (Action α))) :
    (entriesOf rs).map Entry.resource = rs := by
  rw [entriesOf, List.map_map]
  exact List.zipIdx_map_fst 0 rs

theorem entriesOf_names (rs : List (Resource (Action α))) :
    (entriesOf rs).map (·.resource.name) = rs.map Resource.name := by
  have hmap : (entriesOf rs).map (·.resource.name) =
      ((entriesOf rs).map Entry.resource).map Resource.name := by
    rw [List.map_map]
    rfl
  rw [hmap, entriesOf_resources]

theorem entriesOf_map (f : Resource (Action α) → Resource (Action α))
    (rs : List (Resource (Action α))) :
    entriesOf (rs.map f) = (entriesOf rs).map fun e => ⟨e.ticket, f e.resource⟩ := by
  simp [entriesOf, List.zipIdx_map]

theorem mem_entriesOf {rs : List (Resource (Action α))} {i : Nat} {r : Resource (Action α)}
    (h : rs[i]? = some r) : ⟨i, r⟩ ∈ entriesOf rs :=
  List.mem_map.mpr ⟨(r, i), List.mem_zipIdx_iff_getElem?.mpr h, rfl⟩

theorem entriesOf_ticket_lt {rs : List (Resource (Action α))} {e : Entry α}
    (he : e ∈ entriesOf rs) : e.ticket < rs.length := by
  have hmem := List.mem_map_of_mem (f := Entry.ticket) he
  rw [entriesOf_tickets] at hmem
  exact List.mem_range.mp hmem

theorem entriesOf_pairwise (rs : List (Resource (Action α))) :
    (entriesOf rs).Pairwise fun e f => e.ticket < f.ticket := by
  rw [← List.pairwise_map, entriesOf_tickets]
  exact List.pairwise_lt_range

theorem closingOrder_tickets_ne (rs : List (Resource (Action α))) :
    (closingOrder (entriesOf rs)).Pairwise fun e f => e.ticket ≠ f.ticket := by
  rw [(closingOrder_perm _).pairwise_iff fun h => h.symm]
  exact (entriesOf_pairwise rs).imp Nat.ne_of_lt

theorem World.leaveBootstrap_eq (w : World α) (state : State) :
    (w.leaveBootstrap state).1.now = w.now ∧ (w.leaveBootstrap state).1.threads = w.threads := by
  simp only [World.leaveBootstrap, Coordinator.leaveBootstrap]
  by_cases hstate : w.coordinator.state = .bootstrapping
  · rw [if_pos hstate]
    exact ⟨rfl, rfl⟩
  · rw [if_neg hstate]
    exact ⟨rfl, rfl⟩

/-- A world that holds these resources, and in which nothing was closed. -/
structure World.Ready (closeTimeout : Duration) (state : State) (rs : List (Resource (Action α)))
    (w : World α) : Prop where
  closeTimeout : w.coordinator.closeTimeout = closeTimeout
  accepting : w.coordinator.accepting = true
  report : w.coordinator.report = none
  state : w.coordinator.state = state
  issued : w.coordinator.issued = rs.length
  entries : w.coordinator.entries = entriesOf rs
  begun : ∀ n, w.begun n = []

namespace World.Ready

variable {closeTimeout : Duration} {state : State} {rs : List (Resource (Action α))}
variable {w w' : World α}

theorem under (h : w.Ready closeTimeout state rs) : w.Under ⟨closeTimeout, true⟩ :=
  ⟨h.closeTimeout, h.accepting, h.report⟩

theorem of_same (h : w.Ready closeTimeout state rs) (hcoordinator : w'.coordinator = w.coordinator)
    (hhistory : w'.history = w.history) : w'.Ready closeTimeout state rs := by
  obtain ⟨htimeout, haccepting, hreport, hstate, hissued, hentries, hbegun⟩ := h
  rw [← hcoordinator] at htimeout haccepting hreport hstate hissued hentries
  refine ⟨htimeout, haccepting, hreport, hstate, hissued, hentries, fun n => ?_⟩
  rw [World.begun, hhistory]
  exact hbegun n

theorem record (h : w.Ready closeTimeout state rs) {e : Event} (he : e.closing? = none) :
    (w.record e).Ready closeTimeout state rs := by
  refine ⟨h.closeTimeout, h.accepting, h.report, h.state, h.issued, h.entries, fun n => ?_⟩
  rw [← h.begun n]
  simp [World.begun, World.record, he]

theorem register (h : w.Ready closeTimeout state rs) (r : Resource (Action α)) :
    (w.register r).1.Ready closeTimeout state (rs ++ [r]) := by
  rw [World.register_of_accepting h.accepting]
  refine ⟨h.closeTimeout, h.accepting, h.report, h.state, ?_, ?_, h.begun⟩
  · rw [List.length_append, ← h.issued]
    rfl
  · rw [entriesOf_concat, ← h.entries, ← h.issued]

theorem leaveBootstrap (h : w.Ready closeTimeout .bootstrapping rs) (s : State) :
    (w.leaveBootstrap s).1.Ready closeTimeout s rs := by
  simp only [World.leaveBootstrap, Coordinator.leaveBootstrap, if_pos h.state]
  exact ⟨h.closeTimeout, h.accepting, h.report, rfl, h.issued, h.entries, h.begun⟩

theorem trigger (h : w.Ready closeTimeout state rs) (hthreads : ∀ t ∈ w.threads, t.causes = [])
    (cause : Cause) : (w.trigger cause).Passing ⟨closeTimeout, false⟩ rs.length cause w.now
      (closingOrder (entriesOf rs)) w.threads.length := by
  have hpassing := World.trigger_passing cause h.accepting h.report (h.begun _)
    (by rw [h.entries, h.issued]; exact fun e he => entriesOf_ticket_lt he) hthreads
  rw [h.closeTimeout, h.issued, h.entries] at hpassing
  exact hpassing

end World.Ready

/-- A world to which these resources were handed over, and in which nothing else has happened. -/
structure World.Holds (closeTimeout : Duration) (rs : List (Resource (Action α)))
    (w : World α) : Prop where
  closeTimeout : w.coordinator.closeTimeout = closeTimeout
  accepting : w.coordinator.accepting = true
  report : w.coordinator.report = none
  issued : w.coordinator.issued = rs.length
  entries : w.coordinator.entries = entriesOf rs
  accepted : w.accepted = List.range rs.length
  history : w.history = []

namespace World.Holds

variable {closeTimeout : Duration} {rs : List (Resource (Action α))} {w : World α}

theorem under (h : w.Holds closeTimeout rs) : w.Under ⟨closeTimeout, true⟩ :=
  ⟨h.closeTimeout, h.accepting, h.report⟩

theorem register (h : w.Holds closeTimeout rs) (r : Resource (Action α)) :
    (w.register r).1.Holds closeTimeout (rs ++ [r]) := by
  rw [World.register_of_accepting h.accepting]
  refine ⟨h.closeTimeout, h.accepting, h.report, ?_, ?_, ?_, h.history⟩
  · rw [List.length_append, ← h.issued]
    rfl
  · rw [entriesOf_concat, ← h.entries, ← h.issued]
  · rw [List.length_append, List.length_singleton, List.range_succ, ← h.accepted, ← h.issued,
      World.accepted, Note.pick_append, Note.pick_append, List.append_assoc]
    rfl

theorem ready (h : w.Holds closeTimeout rs) : w.Ready closeTimeout w.coordinator.state rs :=
  ⟨h.closeTimeout, h.accepting, h.report, rfl, h.issued, h.entries,
    fun n => by rw [World.begun, h.history]; rfl⟩

theorem trigger (h : w.Holds closeTimeout rs) (hthreads : ∀ t ∈ w.threads, t.causes = [])
    (cause : Cause) : (w.trigger cause).Passing ⟨closeTimeout, false⟩ rs.length cause w.now
      (closingOrder (entriesOf rs)) w.threads.length :=
  h.ready.trigger hthreads cause

end World.Holds

end EventIntake.Lifecycle
