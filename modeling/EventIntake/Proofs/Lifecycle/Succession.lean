import EventIntake.Proofs.Lifecycle.Handover
import EventIntake.Proofs.Lifecycle.Held

/-!
# One close after the other

The pass begins the next close only when the one before it is over: it has ended, or it was cut off
and counts as a failure.  A `Turn` does not tell that, for it leaves out which close is under way.
A `World.Move` does, and `Behind` is what all moves keep: of two resources that were registered, the
one that has to be closed first is over before the close of the other one begins.
-/

namespace EventIntake.Lifecycle

variable {α : Type} {phases : Bool}

def Event.ended? : Event → Option Nat
  | .closed ticket _ | .closeFailed ticket _ => some ticket
  | _ => none

def Thread.errors : Thread α → List CloseFailure
  | .pass p => p.errors
  | .trigger _ _ | .finished => []

def Thread.isPass : Thread α → Bool
  | .pass _ => true
  | .trigger _ _ | .finished => false

namespace World

def ended (w : World α) : List Nat := w.history.filterMap fun e => e.2.ended?

/-- The closes that have failed: those that the pass has met with, and in the end those of its
report. -/
def failures (w : World α) : List CloseFailure :=
  w.threads.flatMap Thread.errors ++ (w.coordinator.report.map Report.errors).getD []

/-- Whether the close of a registered resource is over. -/
def IsOver (w : World α) (e : Entry α) : Prop :=
  e.ticket ∈ w.ended ∨ ∃ failure ∈ w.failures, failure.resource = e.resource.name

theorem mem_failures {w : World α} {failure : CloseFailure} : failure ∈ w.failures ↔
    (∃ (i : Nat) (t : Thread α), w.threads[i]? = some t ∧ failure ∈ t.errors) ∨
      ∃ r, w.coordinator.report = some r ∧ failure ∈ r.errors := by
  rw [failures, List.mem_append, List.mem_flatMap]
  refine or_congr ?_ ?_
  · constructor
    · rintro ⟨t, ht, hfailure⟩
      obtain ⟨i, hi⟩ := List.getElem?_of_mem ht
      exact ⟨i, t, hi, hfailure⟩
    · rintro ⟨i, t, hi, hfailure⟩
      exact ⟨t, List.mem_of_getElem? hi, hfailure⟩
  · cases w.coordinator.report <;> simp

/-- With the report, what failed is what the report tells. -/
theorem Standing.failures_eq {w : World α} (hs : w.Standing) {r : Report}
    (hr : w.coordinator.report = some r) : w.failures = r.errors := by
  have hcauses : w.causes = [] := by
    cases hs with
    | awaited _ hreport => simp [hreport] at hr
    | underWay _ hreport => simp [hreport] at hr
    | ended _ _ _ _ hcauses => exact hcauses
  have hnone : w.threads.flatMap Thread.errors = [] := by
    refine List.flatMap_eq_nil_iff.mpr fun t ht => ?_
    have hcause := List.flatMap_eq_nil_iff.mp hcauses t ht
    cases t with
    | pass p => cases hcause
    | trigger cause begun => rfl
    | finished => rfl
  rw [failures, hnone, hr]
  rfl

/-! ## Moves -/

/-- One move within a process, as its world sees it. -/
inductive Move : World α → World α → Prop
  | effect {w w' : World α} {P P' : Multiset (Closing Unit)} {phases : Bool}
      (h : Effect phases (w, P) (w', P')) : Move w w'
  | clock (w : World α) (t : Nat) : Move w { w with now := t }
  | listen (w : World α) (l : List (Option Cause)) :
      Move w { w with coordinator := { w.coordinator with subscribers := l } }
  | aside {w : World α} {i : Nat} {t t' : Thread α} (ht : w.threads[i]? = some t)
      (hbefore : t.isPass = false) (hafter : t'.isPass = false) :
      Move w { w with threads := w.threads.set i t' }
  | close {w : World α} {i : Nat} {p : Pass α} {c : Closing (Work α)}
      (ht : w.threads[i]? = some (.pass p)) (hcurrent : p.current = some c) (work : Work α) :
      Move w { w with threads := w.threads.set i (.pass { p with
        current := some { c with work } }) }
  | done {w : World α} {i : Nat} {p : Pass α} {c : Closing (Work α)} {l : List CloseFailure}
      (ht : w.threads[i]? = some (.pass p)) (hcurrent : p.current = some c)
      (hover : c.ticket ∈ w.ended ∨ ∃ failure ∈ l, failure.resource = c.name) :
      Move w { w with threads := w.threads.set i (.pass { p with
        current := none
        errors := p.errors ++ l }) }
  | take {w : World α} {i : Nat} {p : Pass α} {e : Entry α} {rest : List (Entry α)}
      (ht : w.threads[i]? = some (.pass p)) (hcurrent : p.current = none)
      (hwaiting : p.waiting = e :: rest) :
      Move w { w.record (.closing e.ticket e.resource.name) with
        threads := w.threads.set i (.pass { p with
          current := some (w.beginClose e.ticket e.resource).2
          waiting := rest
          attempted := p.attempted ++ [e.resource.name] }) }
  | stop {w : World α} {i : Nat} {p : Pass α} (ht : w.threads[i]? = some (.pass p))
      (hcurrent : p.current = none) (hwaiting : p.waiting = [])
      (hreport : w.coordinator.report = none) :
      Move w { w.stop p.report with threads := w.threads.set i .finished }

abbrev Moves : World α → World α → Prop := Relation.ReflTransGen Move

end World

theorem Effects.moves {a b : Scene α} (h : Effects phases a b) : a.1.Moves b.1 := by
  induction h with
  | refl => exact .refl
  | tail _ hstep ih => exact ih.tail (.effect hstep)

theorem Pass.afterClose_moves {w w₁ w' : World α} {i : Nat} {p : Pass α} {c : Closing (Work α)}
    {result : Option (Except String (Value α))} {t : Thread α}
    (ht : w.threads[i]? = some (.pass p)) (hcurrent : p.current = some c)
    (hafter : p.afterClose w₁ c result = (w', t))
    (hend : Effects false (w, ↑c.work.refusals) ((w₁.endClose c result).1, 0)) :
    w.Moves { w' with threads := w'.threads.set i t } := by
  have hmoves := hend.moves
  have hthread := hend.getElem?_threads ht
  have hover : c.ticket ∈ (w₁.endClose c result).1.ended ∨
      ∃ failure, (w₁.endClose c result).2 = .error failure ∧ failure.resource = c.name := by
    unfold World.endClose
    split
    · exact .inl (by simp [World.ended, World.record, Event.ended?])
    · exact .inl (by simp [World.ended, World.record, Event.ended?])
    · exact .inr ⟨_, rfl, rfl⟩
  unfold Pass.afterClose at hafter
  split at hafter
  · case h_1 w₂ u hclose =>
    cases hafter
    rw [hclose] at hmoves hthread hover
    have hended : c.ticket ∈ w'.ended := by
      rcases hover with hended | ⟨failure, hfailure, -⟩
      · exact hended
      · cases hfailure
    have hdone := World.Move.done (l := []) hthread hcurrent (.inl hended)
    rw [List.append_nil] at hdone
    exact hmoves.tail hdone
  · case h_2 w₂ e hclose =>
    cases hafter
    rw [hclose] at hmoves hthread hover
    have hquiet := w₂.quiet_journal ((Journal.Grows.log ..).trans
      (.teardownError (w₂.journal.warn "Resource failed to close"
        [("resource", e.resource), ("reason", e.reason)])))
    have hjournal : Effect false (w₂, 0) (_, 0) := .quiet hquiet fun _ => rfl
    refine (hmoves.tail (.effect hjournal)).tail (.done hthread hcurrent ?_)
    rcases hover with hended | ⟨failure, hfailure, hname⟩
    · exact .inl hended
    · cases hfailure
      exact .inr ⟨e, List.mem_singleton_self e, hname⟩

theorem Pass.Steps.moves {w w' : World α} {i : Nat} {p : Pass α} {t : Thread α}
    (h : Pass.Steps w p w' t) (hs : w.Standing) (ht : w.threads[i]? = some (.pass p)) :
    w.Moves { w' with threads := w'.threads.set i t } := by
  cases h with
  | @work w' c job hcurrent hjob =>
    have hwork : Effects false _ _ := Work.step_effects hjob
    exact hwork.moves.tail (.close (hwork.getElem?_threads ht) hcurrent job)
  | @closed w₁ c result hcurrent hjob =>
    exact Pass.afterClose_moves ht hcurrent rfl
      ((Work.step_effects hjob).trans (w₁.endClose_some_effects c result 0))
  | cutOff hcurrent hjob hdue =>
    exact Pass.afterClose_moves ht hcurrent rfl (w.endClose_none_effects _)
  | take hcurrent hwaiting => exact .single (.take ht hcurrent hwaiting)
  | stop hcurrent hwaiting =>
    have hmem := mem_causes_of_pass ht
    refine .single (.stop ht hcurrent hwaiting ?_)
    cases hs with
    | awaited _ hreport => exact hreport
    | underWay _ hreport => exact hreport
    | ended _ _ _ _ hcauses => simp [hcauses] at hmem

theorem World.stepThread_moves {w w' : World α} {i : Nat} (hs : w.Standing)
    (h : w.stepThread i = some w') : w.Moves w' := by
  obtain ⟨t, w₁, t', ht, hstep, rfl⟩ := World.stepThread_steps h
  cases Thread.step_steps hstep with
  | ask cause =>
    have heffects : Effects false _ _ := w.trigger_effects cause 0
    exact heffects.moves.tail (.aside (heffects.getElem?_threads ht) rfl rfl)
  | told hr cause =>
    have heffects : Effects false (w, 0) _ := .single (.tell hr)
    exact heffects.moves.tail (.aside (heffects.getElem?_threads ht) rfl rfl)
  | pass h => exact h.moves hs ht

theorem Process.take_moves (p : Process α) (hs : p.world.Standing) (c : Choice α) :
    p.world.Moves (p.take c).world := by
  cases c with
  | call actions => exact .refl
  | wait => exact .refl
  | boot phases aborted => exact .refl
  | task i =>
    simp only [take]
    split
    · case h_1 t ht =>
      split
      · case h_1 w t' hstep => exact (Task.step_effects hstep).moves
      · exact .refl
    · exact .refl
  | drop i =>
    simp only [take]
    split
    · case h_1 t ht =>
      have heffects : Effects false _ _ := p.world.giveUp_effects t.refusals
      exact heffects.moves
    · exact .refl
  | thread i =>
    simp only [take]
    split
    · case h_1 w hstep => exact World.stepThread_moves hs hstep
    · exact .refl
  | becomeRunning =>
    have heffects : Effects false _ _ := p.world.leaveBootstrap_effects (.inl rfl) 0
    exact heffects.moves
  | becomeFailed =>
    have heffects : Effects false _ _ := p.world.leaveBootstrap_effects (.inr rfl) 0
    exact heffects.moves
  | subscribe => exact .single (.listen _ _)
  | receive i => exact .single (.listen _ _)
  | clock time =>
    simp only [take]
    split
    · exact .single (.clock _ _)
    · exact .refl

/-! ## What never goes back -/

/-- From `w` to `w'` tickets are only added, and none is accepted once the shutdown has begun. -/
structure World.Onward (w w' : World α) : Prop where
  issued : w.coordinator.issued ≤ w'.coordinator.issued
  accepting : w'.coordinator.accepting = true → w.coordinator.accepting = true ∧
    ∀ e ∈ w.coordinator.entries, e ∈ w'.coordinator.entries
  accepted : ∀ t ∈ w.accepted, t ∈ w'.accepted
  fresh : ∀ t ∈ w'.accepted, t ∈ w.accepted ∨
    w.coordinator.issued ≤ t ∧ w.coordinator.accepting = true
  closings : ∀ t ∈ w.closings, t ∈ w'.closings
  ended : ∀ t ∈ w.ended, t ∈ w'.ended
  failures : ∀ failure ∈ w.failures, failure ∈ w'.failures

theorem getElem?_set_cases {threads : List (Thread α)} {i j : Nat} {t u : Thread α}
    (ht : threads[i]? = some t) (hu : threads[j]? = some u) (t' : Thread α) :
    u = t ∨ (threads.set i t')[j]? = some u := by
  by_cases hij : i = j
  · subst hij
    exact .inl (Option.some.inj (hu.symm.trans ht))
  · rw [List.getElem?_set_ne hij]
    exact .inr hu

namespace World.Onward

variable {w w' w'' : World α}

theorem refl (w : World α) : w.Onward w :=
  ⟨Nat.le_refl _, fun h => ⟨h, fun _ he => he⟩, fun _ ht => ht, fun _ ht => .inl ht,
    fun _ ht => ht, fun _ ht => ht, fun _ h => h⟩

theorem trans (h : w.Onward w') (h' : w'.Onward w'') : w.Onward w'' := by
  refine ⟨h.issued.trans h'.issued, fun hacc => ?_, fun t ht => h'.accepted t (h.accepted t ht),
    fun t ht => ?_, fun t ht => h'.closings t (h.closings t ht),
    fun t ht => h'.ended t (h.ended t ht), fun f hf => h'.failures f (h.failures f hf)⟩
  · obtain ⟨hacc', hentries'⟩ := h'.accepting hacc
    obtain ⟨hacc'', hentries⟩ := h.accepting hacc'
    exact ⟨hacc'', fun e he => hentries' e (hentries e he)⟩
  · rcases h'.fresh t ht with ht | ⟨hissued, hacc⟩
    · exact h.fresh t ht
    · exact .inr ⟨h.issued.trans hissued, (h.accepting hacc).1⟩

/-- A change that only adds, to the notes, to what is seen and to the threads. -/
theorem of_added {l : List (Nat × Note)} {m : List (Nat × Event)} {n : List (Thread α)}
    (hissued : w.coordinator.issued ≤ w'.coordinator.issued)
    (haccepting : w'.coordinator.accepting = true → w.coordinator.accepting = true ∧
      ∀ e ∈ w.coordinator.entries, e ∈ w'.coordinator.entries)
    (hreport : w'.coordinator.report = w.coordinator.report) (hnotes : w'.notes = w.notes ++ l)
    (hfresh : ∀ t ∈ Note.pick Note.accepted? l, w.coordinator.issued ≤ t ∧
      w.coordinator.accepting = true)
    (hhistory : w'.history = w.history ++ m) (hthreads : w'.threads = w.threads ++ n) :
    w.Onward w' := by
  refine ⟨hissued, haccepting, fun t ht => ?_, fun t ht => ?_, fun t ht => ?_, fun t ht => ?_,
    fun f hf => ?_⟩
  · rw [World.accepted, hnotes, Note.pick_append]
    exact List.mem_append_left _ ht
  · rw [World.accepted, hnotes, Note.pick_append] at ht
    exact (List.mem_append.mp ht).imp id (hfresh t)
  · rw [World.closings, hhistory, List.filterMap_append]
    exact List.mem_append_left _ ht
  · rw [World.ended, hhistory, List.filterMap_append]
    exact List.mem_append_left _ ht
  · rw [World.failures, hthreads, hreport, List.flatMap_append]
    rw [World.failures] at hf
    rcases List.mem_append.mp hf with hf | hf
    · exact List.mem_append_left _ (List.mem_append_left _ hf)
    · exact List.mem_append_right _ hf

theorem of_effect {a b : Scene α} (h : Effect phases a b) : a.1.Onward b.1 := by
  have hsame : ∀ {c c' : Coordinator α}, c' = c → c'.accepting = true → c.accepting = true ∧
      ∀ e ∈ c.entries, e ∈ c'.entries := by
    rintro c c' rfl hacc
    exact ⟨hacc, fun e he => he⟩
  cases h with
  | quiet h hnotes =>
    obtain ⟨l, hl, hphase⟩ := h.notes
    obtain ⟨m, hm, -⟩ := h.history
    obtain ⟨n, hn, -⟩ := h.threads
    have hnone : Note.pick Note.accepted? l = [] :=
      Note.pick_of_isPhase _ (fun _ => rfl) (fun _ => rfl) fun x hx => (hphase x hx).2
    refine of_added (by rw [h.coordinator]) (hsame h.coordinator) (by rw [h.coordinator]) hl ?_
      hm hn
    rw [hnone]
    exact fun t ht => by cases ht
  | @accept w P r hacc =>
    refine of_added (Nat.le_succ _) (fun _ => ⟨hacc, fun e he => List.mem_append_left _ he⟩) rfl rfl
      (fun t ht => ?_) (List.append_nil _).symm (List.append_nil _).symm
    have hissued : t = w.coordinator.issued := List.mem_singleton.mp ht
    exact ⟨hissued.ge, hacc⟩
  | refuse r hacc =>
    exact of_added (Nat.le_succ _) (fun h => ⟨h, fun e he => he⟩) rfl rfl
      (fun t ht => by cases ht) rfl (List.append_nil _).symm
  | settle c =>
    exact of_added (Nat.le_refl _) (hsame rfl) rfl rfl (fun t ht => by cases ht)
      (List.append_nil _).symm (List.append_nil _).symm
  | giveUp l =>
    refine of_added (Nat.le_refl _) (hsame rfl) rfl rfl (fun t ht => ?_)
      (List.append_nil _).symm (List.append_nil _).symm
    simp [Note.pick, Note.accepted?] at ht
  | shutDown cause hacc =>
    exact of_added (Nat.le_refl _) (fun h => by cases h) rfl rfl (fun t ht => by cases ht)
      (List.append_nil _).symm rfl
  | ask cause hacc =>
    exact of_added (Nat.le_refl _) (hsame rfl) rfl rfl (fun t ht => by cases ht)
      (List.append_nil _).symm (List.append_nil _).symm
  | tell h =>
    exact of_added (Nat.le_refl _) (hsame rfl) rfl rfl (fun t ht => by cases ht)
      (List.append_nil _).symm (List.append_nil _).symm
  | leave hstates h =>
    exact of_added (Nat.le_refl _) (fun h => ⟨h, fun e he => he⟩) rfl rfl
      (fun t ht => by cases ht) (List.append_nil _).symm (List.append_nil _).symm

theorem of_set {i : Nat} {t t' : Thread α} (ht : w.threads[i]? = some t)
    (herrors : ∀ failure ∈ t.errors, failure ∈ t'.errors) :
    w.Onward { w with threads := w.threads.set i t' } := by
  refine ⟨Nat.le_refl _, fun h => ⟨h, fun _ he => he⟩, fun _ ht => ht, fun _ ht => .inl ht,
    fun _ ht => ht, fun _ ht => ht, fun failure hfailure => ?_⟩
  rw [mem_failures] at hfailure ⊢
  refine hfailure.imp ?_ id
  rintro ⟨j, u, hu, hmem⟩
  rcases getElem?_set_cases ht hu t' with rfl | hkept
  · exact ⟨i, t', getElem?_set_self_of ht t', herrors failure hmem⟩
  · exact ⟨j, u, hkept, hmem⟩

theorem of_move (h : w.Move w') : w.Onward w' := by
  cases h with
  | effect h => exact of_effect h
  | clock t =>
    exact of_added (l := []) (m := []) (n := []) (Nat.le_refl _) (fun h => ⟨h, fun e he => he⟩) rfl
      (List.append_nil _).symm (fun t ht => by cases ht) (List.append_nil _).symm
      (List.append_nil _).symm
  | listen l =>
    exact of_added (l := []) (m := []) (n := []) (Nat.le_refl _) (fun h => ⟨h, fun e he => he⟩) rfl
      (List.append_nil _).symm (fun t ht => by cases ht) (List.append_nil _).symm
      (List.append_nil _).symm
  | @aside i t t' ht hbefore hafter =>
    refine of_set ht fun failure hfailure => ?_
    cases t with
    | pass p => cases hbefore
    | trigger cause begun => cases hfailure
    | finished => cases hfailure
  | close ht hcurrent work => exact of_set ht fun failure hfailure => hfailure
  | done ht hcurrent hover =>
    exact of_set ht fun failure hfailure => List.mem_append_left _ hfailure
  | @take i p e rest ht hcurrent hwaiting =>
    have hrecord : w.Onward (w.record (.closing e.ticket e.resource.name)) :=
      of_added (l := []) (n := []) (Nat.le_refl _) (fun h => ⟨h, fun e he => he⟩) rfl
        (List.append_nil _).symm (fun t ht => by cases ht) rfl (List.append_nil _).symm
    exact hrecord.trans (of_set ht fun failure hfailure => hfailure)
  | @stop i p ht hcurrent hwaiting hreport =>
    refine ⟨Nat.le_refl _, fun h => ⟨h, fun _ he => he⟩, fun t ht => ?_, fun t ht => .inl ?_,
      fun _ ht => ht, fun _ ht => ht, fun failure hfailure => ?_⟩
    · simpa [World.accepted, World.stop, World.note, Note.pick, Note.accepted?] using ht
    · simpa [World.accepted, World.stop, World.note, Note.pick, Note.accepted?] using ht
    · rw [mem_failures] at hfailure ⊢
      rcases hfailure with ⟨j, u, hu, hmem⟩ | ⟨r, hr, -⟩
      · rcases getElem?_set_cases ht hu .finished with rfl | hkept
        · exact .inr ⟨p.report, rfl, hmem⟩
        · exact .inl ⟨j, u, hkept, hmem⟩
      · rw [hreport] at hr
        cases hr

theorem of_moves (h : w.Moves w') : w.Onward w' := by
  induction h with
  | refl => exact refl w
  | tail _ hmove ih => exact ih.trans (of_move hmove)

end World.Onward

theorem World.IsOver.onward {w w' : World α} {e : Entry α} (h : w.IsOver e) (hw : w.Onward w') :
    w'.IsOver e :=
  h.imp (hw.ended e.ticket) fun ⟨failure, hfailure, hname⟩ =>
    ⟨failure, hw.failures failure hfailure, hname⟩

/-! ## Two resources that were registered -/

/-- Both are registered and nothing was closed yet; the first one will have to be closed first. -/
structure World.HoldsBoth (w : World α) (e f : Entry α) : Prop where
  accepting : w.coordinator.accepting = true
  first : e ∈ w.coordinator.entries
  second : f ∈ w.coordinator.entries
  before : e.ClosesBefore f
  order : w.coordinator.entries.Pairwise fun e f => e.ticket < f.ticket
  issued : ∀ e ∈ w.coordinator.entries, e.ticket < w.coordinator.issued

theorem World.HoldsBoth.of_same {w w' : World α} {e f : Entry α} (h : w.HoldsBoth e f)
    (haccepting : w'.coordinator.accepting = w.coordinator.accepting)
    (hentries : w'.coordinator.entries = w.coordinator.entries)
    (hissued : w'.coordinator.issued = w.coordinator.issued) : w'.HoldsBoth e f where
  accepting := haccepting.trans h.accepting
  first := hentries ▸ h.first
  second := hentries ▸ h.second
  before := h.before
  order := hentries ▸ h.order
  issued := by
    rw [hentries, hissued]
    exact h.issued

/-- The pass has both before it, or is at the first one. -/
inductive Pass.HasAhead (p : Pass α) (e f : Entry α) : Prop
  | waiting (horder : [e, f].Sublist p.waiting)
  | closing {c : Closing (Work α)} (hcurrent : p.current = some c) (hticket : c.ticket = e.ticket)
      (hname : c.name = e.resource.name) (hf : f ∈ p.waiting)

/-- How far the shutdown is with two registered resources, of which the first one is closed
first. -/
inductive World.Behind (w : World α) (e f : Entry α) : Prop
  | held (h : w.HoldsBoth e f)
  | passing {i : Nat} {p : Pass α} (ht : w.threads[i]? = some (.pass p)) (hp : p.HasAhead e f)
  | past (h : w.IsOver e)

theorem Entry.ClosesBefore.asymm {e f : Entry α} (h : e.ClosesBefore f) : ¬ f.ClosesBefore e := by
  rintro (hrank | ⟨hstage, hticket⟩) <;> rcases h with hrank' | ⟨hstage', hticket'⟩
  · exact Nat.lt_asymm hrank hrank'
  · rw [hstage'] at hrank
    exact Nat.lt_irrefl _ hrank
  · rw [hstage] at hrank'
    exact Nat.lt_irrefl _ hrank'
  · exact Nat.lt_asymm hticket hticket'

theorem pair_sublist {β : Type} {R : β → β → Prop} {l : List β} (hl : l.Pairwise R) {x y : β}
    (hx : x ∈ l) (hy : y ∈ l) (hne : x ≠ y) (hnot : ¬ R y x) : [x, y].Sublist l := by
  induction hl with
  | nil => cases hx
  | @cons z l hz hl ih =>
    rcases List.mem_cons.mp hx with rfl | hxl
    · have hyl := (List.mem_cons.mp hy).resolve_left (Ne.symm hne)
      exact (List.singleton_sublist.mpr hyl).cons_cons x
    · rcases List.mem_cons.mp hy with rfl | hyl
      · exact absurd (hz x hxl) hnot
      · exact (ih hxl hyl).cons z

namespace World.Behind

variable {w w' : World α} {e f : Entry α}

/-- It is enough to look at what is registered and at the thread of the pass. -/
theorem of_kept (h : w.Behind e f) (hw : w.Onward w')
    (hheld : w.HoldsBoth e f → w'.Behind e f)
    (hpass : ∀ {i : Nat} {p : Pass α}, w.threads[i]? = some (.pass p) → p.HasAhead e f →
      w'.threads[i]? = some (.pass p) ∨ w'.Behind e f) : w'.Behind e f := by
  cases h with
  | held h => exact hheld h
  | passing ht hp =>
    rcases hpass ht hp with ht' | h
    · exact .passing ht' hp
    · exact h
  | past h => exact .past (h.onward hw)

theorem of_threads_append (h : w.Behind e f) (hw : w.Onward w')
    (hheld : w.HoldsBoth e f → w'.Behind e f) {n : List (Thread α)}
    (hthreads : w'.threads = w.threads ++ n) : w'.Behind e f := by
  refine h.of_kept hw hheld fun {i p} ht hp => .inl ?_
  rw [hthreads, List.getElem?_append_left (List.getElem?_eq_some_iff.mp ht).1]
  exact ht

theorem of_threads_set (h : w.Behind e f) (hw : w.Onward w')
    (hheld : w.HoldsBoth e f → w'.Behind e f) {i : Nat} {t t' : Thread α}
    (ht : w.threads[i]? = some t) (hthreads : w'.threads = w.threads.set i t')
    (hpass : ∀ p, t = .pass p → p.HasAhead e f → w'.Behind e f) : w'.Behind e f := by
  refine h.of_kept hw hheld fun {j p} hj hp => ?_
  rcases getElem?_set_cases ht hj t' with hsame | hkept
  · exact .inr (hpass p hsame.symm hp)
  · rw [hthreads]
    exact .inl hkept

theorem effect {a b : Scene α} (h : a.1.Behind e f) (heffect : Effect phases a b) :
    b.1.Behind e f := by
  have hw := World.Onward.of_effect heffect
  obtain ⟨n, hn, -⟩ := heffect.threads
  refine h.of_threads_append hw (fun hheld => ?_) hn
  cases heffect with
  | quiet hquiet hnotes =>
    exact .held (hheld.of_same (by rw [hquiet.coordinator]) (by rw [hquiet.coordinator])
      (by rw [hquiet.coordinator]))
  | @accept w P r hacc =>
    refine .held ⟨hacc, List.mem_append_left _ hheld.first, List.mem_append_left _ hheld.second,
      hheld.before, ?_, fun x hx => ?_⟩
    · refine List.pairwise_append.mpr
        ⟨hheld.order, List.pairwise_singleton _ _, fun x hx y hy => ?_⟩
      rw [List.mem_singleton.mp hy]
      exact hheld.issued x hx
    · rcases List.mem_append.mp hx with hx | hx
      · exact Nat.lt_succ_of_lt (hheld.issued x hx)
      · rw [List.mem_singleton.mp hx]
        exact Nat.lt_succ_self _
  | refuse r hacc => exact absurd hheld.accepting (Bool.eq_false_iff.mp hacc)
  | settle c => exact .held (hheld.of_same rfl rfl rfl)
  | giveUp l => exact .held (hheld.of_same rfl rfl rfl)
  | @shutDown w P cause hacc =>
    have hne : e ≠ f := by
      rintro rfl
      exact hheld.before.asymm hheld.before
    have hpair := pair_sublist (closingOrder_pairwise hheld.order)
      ((closingOrder_perm _).mem_iff.mpr hheld.first)
      ((closingOrder_perm _).mem_iff.mpr hheld.second) hne hheld.before.asymm
    exact .passing (i := w.threads.length)
      (p := ⟨cause, none, closingOrder w.coordinator.entries, [], []⟩) (by simp) (.waiting hpair)
  | ask cause hacc => exact .held (hheld.of_same rfl rfl rfl)
  | tell h => exact .held (hheld.of_same rfl rfl rfl)
  | leave hstates h => exact .held (hheld.of_same rfl rfl rfl)

/-- **Every move keeps two resources in their order.** -/
theorem move (h : w.Behind e f) (hmove : w.Move w') : w'.Behind e f := by
  have hw := World.Onward.of_move hmove
  have hheld : ∀ {v : World α}, v.coordinator.accepting = w.coordinator.accepting →
      v.coordinator.entries = w.coordinator.entries →
      v.coordinator.issued = w.coordinator.issued → w.HoldsBoth e f → v.Behind e f :=
    fun haccepting hentries hissued hboth => .held (hboth.of_same haccepting hentries hissued)
  cases hmove with
  | effect heffect => exact h.effect heffect
  | clock t => exact h.of_threads_append hw (hheld rfl rfl rfl) (List.append_nil _).symm
  | listen l => exact h.of_threads_append hw (hheld rfl rfl rfl) (List.append_nil _).symm
  | @aside i t t' ht hbefore hafter =>
    refine h.of_threads_set hw (hheld rfl rfl rfl) ht rfl fun p hp _ => ?_
    rw [hp] at hbefore
    cases hbefore
  | @close i p c ht hcurrent work =>
    refine h.of_threads_set hw (hheld rfl rfl rfl) ht rfl fun q hq hahead => ?_
    cases hq
    refine .passing (getElem?_set_self_of ht _) ?_
    cases hahead with
    | waiting horder => exact .waiting horder
    | closing hc hticket hname hf =>
      cases hcurrent.symm.trans hc
      exact .closing rfl hticket hname hf
  | @done i p c l ht hcurrent hover =>
    refine h.of_threads_set hw (hheld rfl rfl rfl) ht rfl fun q hq hahead => ?_
    cases hq
    cases hahead with
    | waiting horder => exact .passing (getElem?_set_self_of ht _) (.waiting horder)
    | closing hc hticket hname hf =>
      -- the close that is over is the one of `e`
      cases hcurrent.symm.trans hc
      rcases hover with hended | ⟨failure, hfailure, hresource⟩
      · exact .past (.inl (hticket ▸ hended))
      · exact .past (.inr ⟨failure, mem_failures.mpr (.inl ⟨i, _, getElem?_set_self_of ht _,
          List.mem_append_right _ hfailure⟩), hresource.trans hname⟩)
  | @take i p x rest ht hcurrent hwaiting =>
    refine h.of_threads_set hw (hheld rfl rfl rfl) ht rfl fun q hq hahead => ?_
    cases hq
    refine .passing (getElem?_set_self_of ht _) ?_
    cases hahead with
    | waiting horder =>
      rw [hwaiting] at horder
      -- the pass takes something else, or `e`, and then `f` is behind it
      cases horder with
      | cons _ horder => exact .waiting horder
      | cons_cons _ hrest => exact .closing rfl rfl rfl (List.singleton_sublist.mp hrest)
    | closing hc => cases hcurrent.symm.trans hc
  | @stop i p ht hcurrent hwaiting hreport =>
    refine h.of_threads_set hw (hheld rfl rfl rfl) ht rfl fun q hq hahead => ?_
    cases hq
    cases hahead with
    | waiting horder =>
      rw [hwaiting] at horder
      cases horder
    | closing hc => cases hcurrent.symm.trans hc

theorem moves (h : w.Behind e f) (hmoves : w.Moves w') : w'.Behind e f := by
  induction hmoves with
  | refl => exact h
  | tail _ hmove ih => exact ih.move hmove

/-- **Once the close of the second resource has begun, that of the first one is over.** -/
theorem isOver {s : Scene α} (h : s.1.Behind e f) (hb : s.Balanced)
    (hbegun : f.ticket ∈ s.1.closings) : s.1.IsOver e := by
  have hheld : f.ticket ∉ s.1.held := by
    intro hheld
    have hnodup := hb.nodup
    rw [← Multiset.coe_nodup, ← hb.custody, Multiset.nodup_add] at hnodup
    exact Multiset.disjoint_left.mp hnodup.2.2 (Multiset.mem_coe.mpr hbegun)
      (Multiset.mem_coe.mpr hheld)
  have hwaiting : ∀ {i : Nat} {p : Pass α}, s.1.threads[i]? = some (.pass p) → f ∉ p.waiting := by
    intro i p ht hf
    refine hheld (List.mem_append_right _ (List.mem_map_of_mem ?_))
    exact List.mem_flatMap.mpr ⟨_, List.mem_of_getElem? ht, hf⟩
  cases h with
  | held h => exact absurd (List.mem_append_left _ (List.mem_map_of_mem h.second)) hheld
  | passing ht hp =>
    cases hp with
    | waiting horder => exact absurd (horder.subset (by simp)) (hwaiting ht)
    | closing hcurrent hticket hname hf => exact absurd hf (hwaiting ht)
  | past h => exact h

end World.Behind

end EventIntake.Lifecycle
