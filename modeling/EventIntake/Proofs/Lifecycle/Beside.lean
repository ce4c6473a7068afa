import EventIntake.Proofs.Lifecycle.Ledger

/-!
# What goes on beside the pass

Once the shutdown has begun, everything but the pass itself leaves alone what the pass goes by: the
clock, the close timeout, the report, the threads that are there, and the closes of the resources
handed over before, whose tickets lie below a bound.
-/

namespace EventIntake.Lifecycle

variable {α : Type} {n : Nat} {w w' w'' : World α}

def World.begun (w : World α) (n : Nat) : List (Nat × Nat × String) :=
  w.history.filterMap fun e => (e.2.closing?.filter fun c => c.1 < n).map (e.1, ·)

/-- Whether a note is neither about a phase nor about a hand-over that was accepted. -/
def Note.isAside : Note → Bool
  | .phaseBegun _ | .phaseDone _ | .accepted _ => false
  | _ => true

def World.phases (w : World α) : List (Nat × Note) := w.notes.filter (·.2.isPhase)

theorem World.phases_of_aside {l : List (Nat × Note)} (hl : w'.notes = w.notes ++ l)
    (haside : ∀ x ∈ l, x.2.isAside) : w'.phases = w.phases := by
  have hnone : l.filter (·.2.isPhase) = [] := by
    refine List.filter_eq_nil_iff.mpr fun x hx hphase => ?_
    have hxaside := haside x hx
    cases hnote : x.2 <;> simp [hnote, Note.isPhase, Note.isAside] at hphase hxaside
  rw [World.phases, hl, List.filter_append, hnone, List.append_nil, World.phases]

theorem World.accepted_of_aside {l : List (Nat × Note)} (hl : w'.notes = w.notes ++ l)
    (haside : ∀ x ∈ l, x.2.isAside) : w'.accepted = w.accepted := by
  have hnone : Note.pick Note.accepted? l = [] := by
    refine List.filterMap_eq_nil_iff.mpr fun x hx => ?_
    have hxaside := haside x hx
    cases hnote : x.2 <;> simp_all [Note.accepted?, Note.isAside]
  rw [World.accepted, hl, Note.pick_append, hnone, List.append_nil, World.accepted]

/-- From `w` to `w'` the pass stays where it is, and nothing with a ticket below `n` is closed. -/
structure World.Beside (n : Nat) (w w' : World α) : Prop where
  now : w'.now = w.now
  closeTimeout : w'.coordinator.closeTimeout = w.coordinator.closeTimeout
  accepting : w'.coordinator.accepting = w.coordinator.accepting
  report : w'.coordinator.report = w.coordinator.report
  stopped : w.coordinator.state = .stopped → w'.coordinator.state = .stopped
  issued : w.coordinator.issued ≤ w'.coordinator.issued
  threads : ∃ l, w'.threads = w.threads ++ l ∧ ∀ t ∈ l, t.causes = []
  begun : w'.begun n = w.begun n
  history : w.history <+: w'.history
  notes : ∃ l, w'.notes = w.notes ++ l ∧ ∀ x ∈ l, x.2.isAside

namespace World.Beside

theorem refl (w : World α) : w.Beside n w :=
  ⟨rfl, rfl, rfl, rfl, id, Nat.le_refl _, ⟨[], by simp⟩, rfl, List.prefix_rfl, ⟨[], by simp⟩⟩

theorem trans (h : w.Beside n w') (h' : w'.Beside n w'') : w.Beside n w'' := by
  obtain ⟨l, hl, hnone⟩ := h.threads
  obtain ⟨l', hl', hnone'⟩ := h'.threads
  obtain ⟨m, hm, hphase⟩ := h.notes
  obtain ⟨m', hm', hphase'⟩ := h'.notes
  refine ⟨h'.now.trans h.now, h'.closeTimeout.trans h.closeTimeout,
    h'.accepting.trans h.accepting, h'.report.trans h.report, fun hw => h'.stopped (h.stopped hw),
    Nat.le_trans h.issued h'.issued,
    ⟨l ++ l', by rw [hl', hl, List.append_assoc], fun t ht => ?_⟩, h'.begun.trans h.begun,
    h.history.trans h'.history, ⟨m ++ m', by rw [hm', hm, List.append_assoc], fun x hx => ?_⟩⟩
  · rcases List.mem_append.mp ht with ht | ht
    · exact hnone t ht
    · exact hnone' t ht
  · rcases List.mem_append.mp hx with hx | hx
    · exact hphase x hx
    · exact hphase' x hx

theorem of_notes {l : List (Nat × Note)} (hl : ∀ x ∈ l, x.2.isAside) :
    w.Beside n { w with notes := w.notes ++ l } :=
  ⟨rfl, rfl, rfl, rfl, id, Nat.le_refl _, ⟨[], by simp⟩, rfl, List.prefix_rfl, ⟨l, rfl, hl⟩⟩

theorem of_record {e : Event} (he : e.closing? = none) : w.Beside n (w.record e) := by
  refine ⟨rfl, rfl, rfl, rfl, id, Nat.le_refl _, ⟨[], by simp [World.record]⟩, ?_,
    List.prefix_append _ _, ⟨[], by simp [World.record]⟩⟩
  simp [World.begun, World.record, he]

theorem of_journal (j : Journal) : w.Beside n { w with journal := j } :=
  ⟨rfl, rfl, rfl, rfl, id, Nat.le_refl _, ⟨[], by simp⟩, rfl, List.prefix_rfl, ⟨[], by simp⟩⟩

theorem getElem?_threads (h : w.Beside n w') {i : Nat} {t : Thread α}
    (ht : w.threads[i]? = some t) : w'.threads[i]? = some t := by
  obtain ⟨l, hl, -⟩ := h.threads
  rw [hl, List.getElem?_append_left (List.getElem?_eq_some_iff.mp ht).1]
  exact ht

theorem phases (h : w.Beside n w') : w'.phases = w.phases := by
  obtain ⟨l, hl, haside⟩ := h.notes
  exact World.phases_of_aside hl haside

theorem accepted (h : w.Beside n w') : w'.accepted = w.accepted := by
  obtain ⟨l, hl, haside⟩ := h.notes
  exact World.accepted_of_aside hl haside

end World.Beside

theorem Effect.beside {a b : Scene α} (h : Effect false a b)
    (hacc : a.1.coordinator.accepting = false) (hissued : n ≤ a.1.coordinator.issued) :
    a.1.Beside n b.1 := by
  cases h with
  | @quiet w w' P h hnotes =>
    obtain ⟨m, hm, hquiet⟩ := h.history
    obtain ⟨l, hl, hasking⟩ := h.threads
    refine ⟨h.now, by rw [h.coordinator], by rw [h.coordinator], by rw [h.coordinator],
      fun hw => h.coordinator ▸ hw, by rw [h.coordinator], ⟨l, hl, fun t ht => ?_⟩, ?_,
      ⟨m, hm.symm⟩, ⟨[], by rw [hnotes rfl, List.append_nil], by simp⟩⟩
    · have hask := hasking t ht
      cases t with
      | pass p => cases hask
      | trigger cause begun => rfl
      | finished => rfl
    · have hnone :
          m.filterMap (fun e => (e.2.closing?.filter fun c => c.1 < n).map (e.1, ·)) = [] :=
        List.filterMap_eq_nil_iff.mpr fun e he => by rw [hquiet e he]; rfl
      rw [World.begun, hm, List.filterMap_append, hnone, List.append_nil, World.begun]
  | accept r hyes =>
    rw [hyes] at hacc
    cases hacc
  | @refuse w P r hno =>
    refine ⟨rfl, rfl, rfl, rfl, id, Nat.le_succ _, ⟨[], by simp⟩, ?_, List.prefix_append _ _,
      ⟨_, rfl, by simp [Note.isAside]⟩⟩
    -- the ticket of what is refused is a new one, so it is not below the bound
    simpa [World.begun, Event.closing?] using hissued
  | settle c => exact .of_notes (by simp [Note.isAside])
  | giveUp l => exact .of_notes (by simp [Note.isAside])
  | shutDown cause hyes =>
    rw [hyes] at hacc
    cases hacc
  | ask cause h => exact .of_notes (by simp [Note.isAside])
  | tell h => exact .of_notes (by simp [Note.isAside])
  | @leave w P s hs h =>
    refine ⟨rfl, rfl, rfl, rfl, fun hw => ?_, Nat.le_refl _, ⟨[], by simp⟩, rfl, List.prefix_rfl,
      ⟨_, rfl, by simp [Note.isAside]⟩⟩
    have hboot : w.coordinator.state = .stopped := hw
    rw [hboot] at h
    cases h

theorem Effects.beside {a b : Scene α} (h : Effects false a b)
    (hacc : a.1.coordinator.accepting = false) (hissued : n ≤ a.1.coordinator.issued) :
    a.1.Beside n b.1 := by
  induction h with
  | refl => exact .refl _
  | tail _ hstep ih =>
    exact ih.trans (hstep.beside (ih.accepting.trans hacc) (Nat.le_trans hissued ih.issued))

end EventIntake.Lifecycle
