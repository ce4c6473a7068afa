import EventIntake.Proofs.Lifecycle.Custody
import EventIntake.Proofs.Lifecycle.Handover
import Mathlib.Data.List.Induction

/-!
# Accounts of the closes

Whether the close of a resource ended well is counted where the pass closes it, and told in a
warning where it was handed over too late.  So the counter of a process is the number of the
accepted resources whose close is over and did not end well, and there are as many warnings as
others (`Process.run_accounts`).
-/

namespace EventIntake.Lifecycle

variable {α : Type}

namespace Process

variable {closeTimeout : Duration}

/-- The closes under way: those of refused hand-overs, and that of the pass. -/
def underWay (p : Process α) : List (Closing Unit) := p.refusals ++ p.world.closesUnderWay

/-- **Whatever a process does next, its books gain the closes that end.** -/
theorem take_gains (p : Process α) (hbegun : ∀ c ∈ p.underWay, p.world.Begun closeTimeout c)
    (htimeout : p.world.coordinator.closeTimeout = closeTimeout) (c : Choice α) :
    ∃ late own, p.world.Gains closeTimeout (p.take c).world late own := by
  have hstay : ∃ late own, p.world.Gains closeTimeout p.world late own := ⟨[], [], .refl _⟩
  have hcoordinator : ∀ coordinator : Coordinator α,
      coordinator.entries = p.world.coordinator.entries →
      ∃ late own, p.world.Gains closeTimeout { p.world with coordinator } late own :=
    fun coordinator hentries =>
      World.Retains.gains (l := []) (.of_notes (l := []) (List.append_nil _).symm rfl hentries rfl
        List.prefix_rfl (Nat.le_refl _)) ⟨[], p.world.coordinator_settles coordinator⟩ nofun
  have hleave : ∀ s, s = .running ∨ s = .failedStartup →
      ∃ late own, p.world.Gains closeTimeout (p.world.leaveBootstrap s).1 late own := by
    intro s hs
    have heffects : Effects false (p.world, 0) _ := p.world.leaveBootstrap_effects hs 0
    exact heffects.retains.gains (l := []) ⟨[], p.world.leaveBootstrap_settles s⟩ nofun
  cases c with
  | call actions => exact hstay
  | wait => exact hstay
  | boot phases aborted => exact hstay
  | task i =>
    simp only [take]
    split
    · case h_1 t ht =>
      split
      · case h_1 w t' hstep =>
        refine (Task.step_effects hstep).retains.gains (Task.step_settles hstep) fun c hc => ?_
        refine hbegun c (List.mem_append_left _ (List.mem_append_left _ ?_))
        exact List.mem_flatMap.mpr ⟨t, List.mem_of_getElem? ht, hc⟩
      · exact hstay
    · exact hstay
  | drop i =>
    simp only [take]
    split
    · case h_1 t ht =>
      have heffects : Effects false _ _ := p.world.giveUp_effects t.refusals
      exact heffects.retains.gains (l := []) ⟨[], p.world.giveUp_settles t.refusals⟩ nofun
    · exact hstay
  | thread i =>
    simp only [take]
    split
    · case h_1 w hstep =>
      refine World.stepThread_gains hstep (fun c hc => hbegun c ?_) htimeout
      rcases List.mem_append.mp hc with hc | hc
      · exact List.mem_append_left _ (List.mem_append_right _ hc)
      · exact List.mem_append_right _ hc
    · exact hstay
  | becomeRunning => exact hleave .running (.inl rfl)
  | becomeFailed => exact hleave .failedStartup (.inr rfl)
  | subscribe => exact hcoordinator _ rfl
  | receive i => exact hcoordinator _ rfl
  | clock time =>
    simp only [take]
    split
    · case isTrue htime =>
      exact World.Retains.gains (l := []) (.of_notes (l := []) (List.append_nil _).symm rfl rfl rfl
        List.prefix_rfl htime) ⟨[], .of_same rfl rfl rfl rfl rfl⟩ nofun
    · exact hstay

end Process

/-- What is under way, was refused or was given up has not been accepted. -/
theorem Scene.Balanced.not_mem_accepted {s : Scene α} (hb : s.Balanced) {ticket : Nat}
    (h : (∃ c ∈ s.2, c.ticket = ticket) ∨ ticket ∈ s.1.refused ∨ ticket ∈ s.1.dropped) :
    ticket ∉ s.1.accepted := by
  have hnodup := Multiset.coe_nodup.mpr hb.nodup
  rw [← hb.calls, add_assoc, add_assoc] at hnodup
  refine fun haccepted => Multiset.disjoint_left.mp (Multiset.nodup_add.mp hnodup).2.2 haccepted ?_
  simpa only [Multiset.mem_add, Multiset.mem_coe, Multiset.mem_map] using h

theorem Scene.Traced.begun_of_mem {closeTimeout : Duration} {s : Scene α}
    (ht : s.Traced closeTimeout) (hb : s.Balanced) {c : Closing Unit} (hc : c ∈ s.2) :
    s.1.Begun closeTimeout c := by
  obtain ⟨t, hregister, hdue⟩ := ht.underWay c hc
  have hnot := hb.not_mem_accepted (.inl ⟨c, hc, rfl⟩)
  exact ⟨t, (ht.late t c.ticket c.name hregister).resolve_left hnot, hdue⟩

namespace Process

variable {closeTimeout : Duration}

/-- **What the books of a run say**: all that has ended, of refused hand-overs and of the pass. -/
theorem run_gains (closeTimeout : Duration) (choices : List (Choice α)) :
    ∃ late own, (start closeTimeout).world.Gains closeTimeout
      (run closeTimeout choices).world late own := by
  induction choices using List.reverseRecOn with
  | nil => exact ⟨[], [], .refl _⟩
  | append_singleton choices c ih =>
    obtain ⟨late, own, hgains⟩ := ih
    have hturns := run_turns closeTimeout choices
    have hlast : run closeTimeout (choices ++ [c]) = (run closeTimeout choices).take c := by
      simp [run]
    rw [hlast]
    generalize run closeTimeout choices = p at hgains hturns
    have htraced : p.scene.Traced closeTimeout := Turns.traced hturns
    have hbegun : ∀ d ∈ p.underWay, p.world.Begun closeTimeout d := by
      intro d hd
      rcases List.mem_append.mp hd with hd | hd
      · exact htraced.begun_of_mem (Turns.balanced hturns) (Multiset.mem_coe.mpr hd)
      · exact (hgains.underWay d hd).resolve_left nofun
    obtain ⟨late', own', hnext⟩ := p.take_gains hbegun htraced.timeout c
    exact ⟨_, _, hgains.trans hnext⟩

/-- The tickets of the resources whose close is over and did not end well.  One that was given up
is not over: nothing has waited for its end. -/
def unclosed (p : Process α) : List Nat :=
  p.world.closings.filter fun ticket => ticket ∉ p.world.closedWell ∧ ticket ∉ p.world.dropped ∧
    ticket ∉ p.underWay.map Closing.ticket

/-- The books of a process: each close that was begun is under way, was given up, or has ended as
`late` or `own` tell. -/
structure Booked (p : Process α) (late own : List (Nat × Ending)) : Prop where
  begun : p.world.closings.Perm (p.underWay.map Closing.ticket ++ (late ++ own).map Prod.fst ++
    p.world.dropped)
  nodup : p.world.closings.Nodup
  closed : ∀ ticket, ticket ∈ p.world.closedWell ↔ (ticket, .closed) ∈ late ++ own
  failed : ∀ ticket, ticket ∈ p.world.closeFailed ↔ (ticket, .failed) ∈ late ++ own
  late : ∀ e ∈ late, e.1 ∉ p.world.accepted
  own : ∀ e ∈ own, e.1 ∈ p.world.accepted

theorem booked_of_gains {p : Process α} {late own : List (Nat × Ending)} (hb : p.scene.Balanced)
    (hgains : (start closeTimeout).world.Gains closeTimeout p.world late own) :
    p.Booked late own := by
  have haccepted : (↑p.world.accepted : Multiset Nat) =
      ↑p.world.held + ↑(p.world.closesUnderWay.map Closing.ticket) + ↑(own.map Prod.fst) := by
    have hcustody := hgains.custody
    rw [p.world.coe_keeps] at hcustody
    simpa [start, World.keeps, World.accepted, Note.pick] using hcustody
  have hrefused : p.world.refused = late.map Prod.fst := hgains.settles.refused
  have hnodup : p.world.closings.Nodup :=
    List.nodup_iff_count_le_one.mpr hb.count_closings_le
  have hcalls := hb.calls
  have hcustody := hb.custody
  simp only [scene] at hcalls hcustody
  refine ⟨?_, hnodup, fun ticket => ?_, fun ticket => ?_, fun e he => ?_, fun e he => ?_⟩
  · refine Multiset.coe_eq_coe.mp (add_right_cancel (b := Multiset.ofList p.world.held) ?_)
    rw [hcustody, ← hcalls, haccepted, hrefused]
    simp only [underWay, List.map_append, ← Multiset.coe_add, ← Multiset.map_coe]
    abel
  · rw [← Multiset.mem_coe, hgains.settles.closed]
    simp [start, World.closedWell]
  · rw [← Multiset.mem_coe, hgains.settles.failed]
    simp [start, World.closeFailed]
  · have hmem : e.1 ∈ p.world.refused := hrefused ▸ List.mem_map_of_mem he
    exact fun hacc => hb.not_mem_accepted (.inr (.inl hmem)) hacc
  · rw [← Multiset.mem_coe, haccepted]
    exact Multiset.mem_add.mpr (.inr (Multiset.mem_coe.mpr (List.mem_map_of_mem he)))

namespace Booked

variable {p : Process α} {late own : List (Nat × Ending)}

theorem not_mem (h : p.Booked late own) {e : Nat × Ending} (he : e ∈ late ++ own) :
    e.1 ∉ p.underWay.map Closing.ticket ∧ e.1 ∉ p.world.dropped := by
  have hmem : e.1 ∈ (late ++ own).map Prod.fst := List.mem_map_of_mem he
  have hnodup := h.begun.nodup_iff.mp h.nodup
  obtain ⟨hfront, -, hlast⟩ := List.nodup_append.mp hnodup
  exact ⟨fun hunder => (List.nodup_append.mp hfront).2.2 _ hunder _ hmem rfl,
    fun hdropped => hlast _ (List.mem_append_right _ hmem) _ hdropped rfl⟩

theorem nodup_ends (h : p.Booked late own) : ((late ++ own).map Prod.fst).Nodup :=
  (List.nodup_append.mp (List.nodup_append.mp (h.begun.nodup_iff.mp h.nodup)).1).2.1

theorem eq_of_mem (h : p.Booked late own) {ticket : Nat} {ending ending' : Ending}
    (he : (ticket, ending) ∈ late ++ own) (he' : (ticket, ending') ∈ late ++ own) :
    ending = ending' :=
  (Prod.mk.inj (List.inj_on_of_nodup_map h.nodup_ends he he' rfl)).2

theorem mem_unclosed_iff (h : p.Booked late own) {ticket : Nat} : ticket ∈ p.unclosed ↔
    ∃ ending, (ticket, ending) ∈ late ++ own ∧ ending ≠ .closed := by
  rw [unclosed, List.mem_filter, h.begun.mem_iff, List.mem_append, List.mem_append,
    decide_eq_true_eq]
  constructor
  · rintro ⟨(hunder | hmem) | hdropped, hclosed, hnotDropped, hnotUnder⟩
    · exact absurd hunder hnotUnder
    · obtain ⟨⟨_, ending⟩, he, rfl⟩ := List.mem_map.mp hmem
      refine ⟨ending, he, ?_⟩
      rintro rfl
      exact hclosed ((h.closed _).mpr he)
    · exact absurd hdropped hnotDropped
  · rintro ⟨ending, he, hending⟩
    obtain ⟨hunder, hdropped⟩ := h.not_mem he
    refine ⟨.inl (.inr (List.mem_map_of_mem he)), fun hclosed => ?_, hdropped, hunder⟩
    exact hending (h.eq_of_mem he ((h.closed ticket).mp hclosed))

theorem unclosed_perm (h : p.Booked late own) :
    p.unclosed.Perm (((late ++ own).filter fun e => e.2 ≠ .closed).map Prod.fst) := by
  have hunclosed : p.unclosed.Nodup := h.nodup.filter _
  refine (List.perm_ext_iff_of_nodup hunclosed
    (h.nodup_ends.sublist (List.filter_sublist.map Prod.fst))).mpr fun ticket => ?_
  rw [h.mem_unclosed_iff]
  simp [or_and_right, exists_or]

theorem countP_unclosed (h : p.Booked late own) (q : Nat → Prop) [DecidablePred q] :
    p.unclosed.countP q = (late.countP fun e => q e.1 ∧ e.2 ≠ .closed) +
      own.countP fun e => q e.1 ∧ e.2 ≠ .closed := by
  rw [h.unclosed_perm.countP_eq, List.countP_map, List.countP_filter, ← List.countP_append]
  exact List.countP_congr fun e _ => by simp

theorem countP_accepted (h : p.Booked late own) :
    (p.unclosed.countP fun ticket => ticket ∈ p.world.accepted) = failureCount own := by
  have hlate : (late.countP fun e => e.1 ∈ p.world.accepted ∧ e.2 ≠ .closed) = 0 :=
    List.countP_eq_zero.mpr fun e he => by simp [h.late e he]
  rw [h.countP_unclosed, hlate, Nat.zero_add]
  exact List.countP_congr fun e he => by simp [h.own e he]

theorem countP_not_accepted (h : p.Booked late own) :
    (p.unclosed.countP fun ticket => ticket ∉ p.world.accepted) = failureCount late := by
  have hown : (own.countP fun e => e.1 ∉ p.world.accepted ∧ e.2 ≠ .closed) = 0 :=
    List.countP_eq_zero.mpr fun e he => by simp [h.own e he]
  rw [h.countP_unclosed, hown, Nat.add_zero]
  exact List.countP_congr fun e he => by simp [h.late e he]

end Booked

/-- What the counter and the warnings of a process tell about its closes. -/
structure Accounts (closeTimeout : Duration) (p : Process α) : Prop where
  once : p.unclosed.Nodup
  /-- A close that did not end well returned an error or had the whole of its time. -/
  ended : ∀ ticket ∈ p.unclosed,
    ticket ∈ p.world.closeFailed ∨ p.world.HadItsTime closeTimeout ticket
  failed : ∀ ticket ∈ p.world.closeFailed, ticket ∈ p.unclosed
  counted : p.world.teardownErrors = p.unclosed.countP fun ticket => ticket ∈ p.world.accepted
  warned : p.world.lateWarnings = p.unclosed.countP fun ticket => ticket ∉ p.world.accepted
  /-- All of them are counted only where none was handed over too late. -/
  complete : p.world.teardownErrors = p.unclosed.length ↔
    ∀ ticket ∈ p.unclosed, ticket ∈ p.world.accepted

/-- **The counter tells the failed closes of what was accepted, and no others.**  Wherever a run has
come to, the resources whose close is over and did not end well are those whose close returned an
error and those that had the whole of their time.  The ones that were accepted are counted; of the
ones that were handed over too late there is only a warning. -/
theorem run_accounts (closeTimeout : Duration) (choices : List (Choice α)) :
    (run closeTimeout choices).Accounts closeTimeout := by
  have hturns := run_turns closeTimeout choices
  obtain ⟨late, own, hgains⟩ := run_gains closeTimeout choices
  generalize run closeTimeout choices = p at hturns hgains
  have hbooked := booked_of_gains (Turns.balanced hturns) hgains
  have hcounted : p.world.teardownErrors = failureCount own :=
    hgains.settles.counted.trans (Nat.zero_add _)
  have hwarned : p.world.lateWarnings = failureCount late :=
    hgains.settles.warned.trans (Nat.zero_add _)
  rw [← hbooked.countP_accepted] at hcounted
  rw [← hbooked.countP_not_accepted] at hwarned
  refine ⟨hbooked.nodup.filter _, fun ticket hmem => ?_, fun ticket hmem => ?_, hcounted, hwarned,
    ?_⟩
  · obtain ⟨ending, he, hending⟩ := hbooked.mem_unclosed_iff.mp hmem
    cases ending with
    | closed => exact absurd rfl hending
    | failed => exact .inl ((hbooked.failed ticket).mpr he)
    | cutOff => exact .inr (hgains.settles.cutOff ticket he)
  · exact hbooked.mem_unclosed_iff.mpr ⟨.failed, (hbooked.failed ticket).mp hmem, nofun⟩
  · rw [hcounted, List.countP_eq_length]
    simp

/-- A resource that is handed over too late, and whose close fails, is not counted. -/
theorem late_failure_uncounted :
    let p := @run Unit (.ofMillis 5) [.call [.trigger .requested], .task 0, .thread 0,
      .call [.register ⟨"late", .background, [.fail "refused to close"]⟩], .task 1, .task 1]
    p.underWay = [] ∧ p.unclosed = [0] ∧ p.world.closeFailed = [0] ∧
      p.world.teardownErrors = 0 := by
  decide

end Process

end EventIntake.Lifecycle
