import EventIntake.Proofs.Lifecycle.Calls

/-!
# Hand-overs

A hand-over is followed from the call to its end.  One that is not accepted has its close begun in
the same step, under a deadline of one close timeout, and is answered with a refusal that names the
resource, unless it is given up (`Scene.Traced`).  `Process.run_closesOnce` puts this together with
the balances of the ledger and with the calls that were made and what they got: no interleaving
closes a resource twice, or before the shutdown, or not at all.
-/

namespace EventIntake.Lifecycle

variable {α : Type} {phases : Bool}

/-- Every close, refusal and hand-over under way goes back to a call that was noted. -/
structure Scene.Traced (closeTimeout : Duration) (s : Scene α) : Prop where
  timeout : s.1.coordinator.closeTimeout = closeTimeout
  held : ∀ e ∈ s.1.coordinator.entries ++ s.1.waiting,
    ∃ t, (t, Note.register e.ticket e.resource.name) ∈ s.1.notes
  begun : ∀ t ticket name, (t, Event.closing ticket name) ∈ s.1.history →
    ∃ t, (t, Note.register ticket name) ∈ s.1.notes
  late : ∀ t ticket name, (t, Note.register ticket name) ∈ s.1.notes →
    ticket ∈ s.1.accepted ∨ (t, Event.closing ticket name) ∈ s.1.history
  underWay : ∀ c ∈ s.2, ∃ t, (t, Note.register c.ticket c.name) ∈ s.1.notes ∧
    c.due = t + closeTimeout.millis
  told : ∀ t ticket message, (t, Note.refused ticket message) ∈ s.1.notes →
    ∃ t name, (t, Note.register ticket name) ∈ s.1.notes ∧ message = refusalMessage name

/-- It is enough to trace what is new. -/
theorem Scene.Traced.extend {closeTimeout : Duration} {w w' : World α}
    {P P' : Multiset (Closing Unit)} (h : Scene.Traced closeTimeout (w, P))
    {l : List (Nat × Note)} {m : List (Nat × Event)} (hnotes : w'.notes = w.notes ++ l)
    (hhistory : w'.history = w.history ++ m)
    (htimeout : w'.coordinator.closeTimeout = w.coordinator.closeTimeout)
    (hheld : ∀ e ∈ w'.coordinator.entries ++ w'.waiting, e ∈ w.coordinator.entries ++ w.waiting ∨
      ∃ t, (t, Note.register e.ticket e.resource.name) ∈ l)
    (hbegun : ∀ t ticket name, (t, Event.closing ticket name) ∈ m →
      ∃ t, (t, Note.register ticket name) ∈ w.notes ++ l)
    (hlate : ∀ t ticket name, (t, Note.register ticket name) ∈ l →
      (∃ t, (t, Note.accepted ticket) ∈ l) ∨ (t, Event.closing ticket name) ∈ m)
    (hunderWay : ∀ c ∈ P', c ∈ P ∨ ∃ t, (t, Note.register c.ticket c.name) ∈ l ∧
      c.due = t + closeTimeout.millis)
    (htold : ∀ t ticket message, (t, Note.refused ticket message) ∈ l →
      ∃ t name, (t, Note.register ticket name) ∈ w.notes ∧ message = refusalMessage name) :
    Scene.Traced closeTimeout (w', P') := by
  have hold : ∀ n, n ∈ w.notes → n ∈ w'.notes := fun n hn => by
    rw [hnotes]
    exact List.mem_append_left l hn
  have hnew : ∀ n, n ∈ l → n ∈ w'.notes := fun n hn => by
    rw [hnotes]
    exact List.mem_append_right w.notes hn
  constructor
  · exact htimeout.trans h.timeout
  · intro e he
    rcases hheld e he with he | ⟨t, ht⟩
    · obtain ⟨t, ht⟩ := h.held e he
      exact ⟨t, hold _ ht⟩
    · exact ⟨t, hnew _ ht⟩
  · intro t ticket name he
    rw [hhistory] at he
    rcases List.mem_append.mp he with he | he
    · obtain ⟨t, ht⟩ := h.begun t ticket name he
      exact ⟨t, hold _ ht⟩
    · obtain ⟨t, ht⟩ := hbegun t ticket name he
      exact ⟨t, hnotes ▸ ht⟩
  · intro t ticket name hn
    rw [hnotes] at hn
    rw [World.accepted, hnotes, Note.pick_append, hhistory]
    rcases List.mem_append.mp hn with hn | hn
    · rcases h.late t ticket name hn with ha | hc
      · exact .inl (List.mem_append_left _ ha)
      · exact .inr (List.mem_append_left _ hc)
    · rcases hlate t ticket name hn with ⟨t, ha⟩ | hc
      · exact .inl (List.mem_append_right _ (List.mem_filterMap.mpr ⟨_, ha, rfl⟩))
      · exact .inr (List.mem_append_right _ hc)
  · intro c hc
    rcases hunderWay c hc with hc | ⟨t, ht, hdue⟩
    · obtain ⟨t, ht, hdue⟩ := h.underWay c hc
      exact ⟨t, hold _ ht, hdue⟩
    · exact ⟨t, hnew _ ht, hdue⟩
  · intro t ticket message hn
    rw [hnotes] at hn
    rcases List.mem_append.mp hn with hn | hn
    · obtain ⟨t, name, ht, hmessage⟩ := h.told t ticket message hn
      exact ⟨t, name, hold _ ht, hmessage⟩
    · obtain ⟨t, name, ht, hmessage⟩ := htold t ticket message hn
      exact ⟨t, name, hold _ ht, hmessage⟩

theorem Scene.Traced.effect {closeTimeout : Duration} {a b : Scene α} (h : Effect phases a b)
    (ht : a.Traced closeTimeout) : b.Traced closeTimeout := by
  cases h with
  | @quiet w w' P h hnotes =>
    obtain ⟨l, hl, hphase⟩ := h.notes
    obtain ⟨m, hm, hquiet⟩ := h.history
    refine ht.extend hl hm (by rw [h.coordinator]) (fun e he => .inl ?_) ?_ ?_
      (fun c hc => .inl hc) ?_
    · rw [h.coordinator, h.waiting_eq] at he
      exact he
    · intro t ticket name he
      cases hquiet _ he
    · intro t ticket name hn
      cases (hphase _ hn).2
    · intro t ticket message hn
      cases (hphase _ hn).2
  | @accept w P r hacc =>
    refine ht.extend rfl (List.append_nil _).symm rfl (fun e he => ?_) (by simp)
      (fun t ticket name hn => .inl ⟨w.now, ?_⟩) (fun c hc => .inl hc) (by simp)
    · simp only [List.append_assoc, List.mem_append, List.mem_singleton] at he ⊢
      rcases he with he | rfl | he
      · exact .inl (.inl he)
      · exact .inr ⟨w.now, by simp⟩
      · exact .inl (.inr he)
    · simp only [List.mem_cons, Prod.mk.injEq, Note.register.injEq, reduceCtorEq, and_false,
        List.not_mem_nil, or_false] at hn
      simp [hn.2.1]
  | @refuse w P r hacc =>
    -- the close begins with the call, and its deadline is one close timeout after that
    refine ht.extend rfl rfl rfl (fun e he => .inl he) ?_ (by simp) (fun c hc => ?_) (by simp)
    · intro t ticket name he
      simp only [List.mem_singleton, Prod.mk.injEq, Event.closing.injEq] at he
      obtain ⟨rfl, rfl, rfl⟩ := he
      exact ⟨w.now, by simp⟩
    · rcases Multiset.mem_cons.mp hc with rfl | hc
      · refine .inr ⟨w.now, by simp [World.refusalOf], ?_⟩
        rw [← ht.timeout]
        rfl
      · exact .inl hc
  | @settle w P c =>
    refine ht.extend rfl (List.append_nil _).symm rfl (fun e he => .inl he) (by simp) (by simp)
      (fun d hd => .inl (Multiset.mem_cons_of_mem hd)) ?_
    intro t ticket message hn
    simp only [List.mem_singleton, Prod.mk.injEq, Note.refused.injEq] at hn
    obtain ⟨-, rfl, rfl⟩ := hn
    obtain ⟨t, hregister, -⟩ := ht.underWay c (Multiset.mem_cons_self c P)
    exact ⟨t, c.name, hregister, rfl⟩
  | @giveUp w P l =>
    exact ht.extend rfl (List.append_nil _).symm rfl (fun e he => .inl he) (by simp) (by simp)
      (fun d hd => .inl (Multiset.mem_add.mpr (.inr hd))) (by simp)
  | @shutDown w P cause hacc =>
    -- what the coordinator held is what the pass has to close
    refine ht.extend rfl (List.append_nil _).symm rfl (fun e he => .inl ?_) (by simp) (by simp)
      (fun c hc => .inl hc) (by simp)
    simp only [World.waiting, List.nil_append, List.flatMap_append, List.mem_append] at he ⊢
    rcases he with he | he
    · exact .inr he
    · simp only [List.flatMap_cons, List.flatMap_nil, Thread.waiting, List.append_nil,
        (closingOrder_perm _).mem_iff] at he
      exact .inl he
  | ask cause hacc =>
    exact ht.extend rfl (List.append_nil _).symm rfl (fun e he => .inl he) (by simp) (by simp)
      (fun c hc => .inl hc) (by simp)
  | tell h =>
    exact ht.extend rfl (List.append_nil _).symm rfl (fun e he => .inl he) (by simp) (by simp)
      (fun c hc => .inl hc) (by simp)
  | leave hs h =>
    exact ht.extend rfl (List.append_nil _).symm rfl (fun e he => .inl he) (by simp) (by simp)
      (fun c hc => .inl hc) (by simp)

theorem Scene.Traced.turn {closeTimeout : Duration} {a b : Scene α} (h : Turn a b)
    (ht : a.Traced closeTimeout) : b.Traced closeTimeout := by
  cases h with
  | effect h => exact ht.effect h
  | clock h => exact ⟨ht.timeout, ht.held, ht.begun, ht.late, ht.underWay, ht.told⟩
  | listen l => exact ⟨ht.timeout, ht.held, ht.begun, ht.late, ht.underWay, ht.told⟩
  | @thread w P i t t' hi hcauses hwaiting =>
    refine ⟨ht.timeout, ?_, ht.begun, ht.late, ht.underWay, ht.told⟩
    have hsame := flatMap_set_of_eq (f := Thread.waiting) hi hwaiting
    simp only [World.waiting, hsame]
    exact ht.held
  | @take w P i p p' e hi hwaiting hcause =>
    have hmem : ∀ f, f ∈ (w.threads.set i (.pass p')).flatMap Thread.waiting → f ∈ w.waiting := by
      intro f hf
      rw [← Multiset.mem_coe, coe_waiting_of_take hi hwaiting]
      exact Multiset.mem_add.mpr (.inl (Multiset.mem_coe.mpr hf))
    refine ht.extend (List.append_nil _).symm rfl rfl (fun f hf => .inl ?_) ?_ (by simp)
      (fun c hc => .inl hc) (by simp)
    · rcases List.mem_append.mp hf with hf | hf
      · exact List.mem_append_left _ hf
      · exact List.mem_append_right _ (hmem f hf)
    · intro t ticket name he
      simp only [List.mem_singleton, Prod.mk.injEq, Event.closing.injEq] at he
      obtain ⟨-, rfl, rfl⟩ := he
      have hwait : e ∈ w.waiting :=
        List.mem_flatMap.mpr ⟨_, List.mem_of_getElem? hi, by simp [Thread.waiting, hwaiting]⟩
      obtain ⟨t, hregister⟩ := ht.held e (List.mem_append_right _ hwait)
      exact ⟨t, List.mem_append_left _ hregister⟩
  | @stop w P i p hi hwaiting =>
    refine ht.extend rfl (List.append_nil _).symm rfl (fun e he => .inl ?_) (by simp) (by simp)
      (fun c hc => .inl hc) (by simp)
    have hsame := flatMap_set_of_eq (f := Thread.waiting) (y := Thread.finished) hi hwaiting.symm
    simp only [World.waiting, hsame] at he ⊢
    exact he

theorem Turns.traced {closeTimeout : Duration} {s : Scene α}
    (h : Turns (Scene.start closeTimeout) s) : s.Traced closeTimeout := by
  induction h with
  | refl => constructor <;> simp [Scene.start, World.waiting]
  | tail _ hturn ih => exact ih.turn hturn

/-! ## Deadlines of refused hand-overs -/

mutual

theorem Work.Waits.now_lt_due {w : World α} {job : Work α} (h : Work.Waits w job) :
    ∀ c ∈ job.refusals, w.now < c.due := by
  intro c hc
  cases h with
  | asleep hdue value rest => cases hc
  | hanging value rest => cases hc
  | untold hreport value rest => cases hc
  | closing h hdue tolerated ticket name stage value rest =>
    rcases List.mem_cons.mp hc with rfl | hc
    · exact hdue
    · exact h.now_lt_due c hc
  | deploying h hresults hdue deadline value rest => exact h.now_lt_due c hc

theorem Worker.Waits.now_lt_due {w : World α} {worker : Worker α} (h : Worker.Waits w worker) :
    ∀ c ∈ worker.refusals, w.now < c.due := by
  intro c hc
  cases h with
  | starting h number r => exact h.now_lt_due c hc
  | closing h hdue ticket name stage =>
    rcases List.mem_cons.mp hc with rfl | hc
    · exact hdue
    · exact h.now_lt_due c hc
  | settled result => cases hc

theorem WorkersWait.now_lt_due {w : World α} {workers : List (Worker α)}
    (h : WorkersWait w workers) : ∀ c ∈ workersRefusals workers, w.now < c.due := by
  intro c hc
  cases h with
  | nil => cases hc
  | cons h hrest =>
    rcases List.mem_append.mp hc with hc | hc
    · exact h.now_lt_due c hc
    · exact hrest.now_lt_due c hc

end

theorem Work.now_lt_due {w : World α} {job : Work α} (h : job.step w = none) :
    ∀ c ∈ job.refusals, w.now < c.due :=
  (Work.step_waits h).now_lt_due

theorem Bootstrap.now_lt_due {w : World α} {b : Bootstrap α} (h : b.step w = none) :
    ∀ c ∈ b.refusals, w.now < c.due := by
  intro c hc
  unfold Bootstrap.refusals at hc
  split at hc
  · case h_1 name limit due work hstand =>
    simp only [Bootstrap.step, hstand] at h
    split at h
    · cases h
    · cases h
    · cases h
    · case h_4 hwork => exact Work.now_lt_due hwork c hc
  · cases hc
  · cases hc

theorem Task.now_lt_due {w : World α} {t : Task α} (h : t.step w = none) :
    ∀ c ∈ t.refusals, w.now < c.due := by
  intro c hc
  cases t with
  | work job =>
    simp only [Task.step] at h
    split at h
    · cases h
    · cases h
    · case h_3 hjob => exact Work.now_lt_due hjob c hc
  | bootstrap b =>
    simp only [Task.step] at h
    split at h
    · cases h
    · cases h
    · case h_3 hb => exact Bootstrap.now_lt_due hb c hc
  | ended => cases hc

theorem Thread.now_lt_due {w : World α} {t : Thread α} (h : t.step w = none) :
    ∀ c ∈ t.refusals, w.now < c.due := by
  intro c hc
  cases t with
  | trigger cause begun => cases hc
  | finished => cases hc
  | pass p =>
    simp only [Thread.refusals] at hc
    split at hc
    · case h_1 d hcurrent =>
      simp only [Thread.step, Pass.step, hcurrent] at h
      split at h
      · cases h
      · cases h
      · case h_3 hwork => exact Work.now_lt_due hwork c hc
    · cases hc

/-- Nothing can go on at the present instant. -/
def Process.Settled (p : Process α) : Prop :=
  (∀ t ∈ p.tasks, t.step p.world = none) ∧ ∀ i, p.world.stepThread i = none

theorem Process.Settled.now_lt_due {p : Process α} (h : p.Settled) :
    ∀ c ∈ p.refusals, p.world.now < c.due := by
  intro c hc
  rcases List.mem_append.mp hc with hc | hc
  · obtain ⟨t, ht, hc⟩ := List.mem_flatMap.mp hc
    exact Task.now_lt_due (h.1 t ht) c hc
  · obtain ⟨t, ht, hc⟩ := List.mem_flatMap.mp hc
    obtain ⟨i, hi⟩ := List.getElem?_of_mem ht
    exact Thread.now_lt_due (World.step_of_stepThread_none (h.2 i) hi) c hc

/-! ## Every interleaving -/

/-- Two notes in which `f` finds the same are one note, when it finds nothing twice. -/
theorem Note.eq_of_pick_nodup {β : Type} {f : Note → Option β} {l : List (Nat × Note)}
    (h : (Note.pick f l).Nodup) {n n' : Nat × Note} (hn : n ∈ l) (hn' : n' ∈ l) {b : β}
    (hf : f n.2 = some b) (hf' : f n'.2 = some b) : n = n' := by
  induction l with
  | nil => cases hn
  | cons m l ih =>
    have hcons := Note.pick_append f [m] l
    rw [List.singleton_append] at hcons
    rw [hcons] at h
    have hrest := ih (List.nodup_append.mp h).2.1
    have hdisjoint : ∀ k ∈ l, f m.2 = some b → f k.2 ≠ some b := by
      intro k hk hm hsame
      have hleft : b ∈ Note.pick f [m] := List.mem_filterMap.mpr ⟨m, by simp, hm⟩
      have hright : b ∈ Note.pick f l := List.mem_filterMap.mpr ⟨k, hk, hsame⟩
      exact (List.nodup_append.mp h).2.2 b hleft b hright rfl
    rcases List.mem_cons.mp hn with heq | hmem
    · rcases List.mem_cons.mp hn' with heq' | hmem'
      · rw [heq, heq']
      · exact absurd hf' (hdisjoint n' hmem' (heq ▸ hf))
    · rcases List.mem_cons.mp hn' with heq' | hmem'
      · exact absurd hf (hdisjoint n hmem (heq' ▸ hf'))
      · exact hrest hmem hmem'

theorem World.mem_offered {w : World α} {t ticket : Nat} {name : String}
    (h : (t, Note.register ticket name) ∈ w.notes) : ticket ∈ w.offered :=
  List.mem_filterMap.mpr ⟨_, h, rfl⟩

namespace Scene

variable {s : Scene α}

theorem Balanced.nodup (hb : s.Balanced) : s.1.offered.Nodup := by
  rw [hb.offered]
  exact List.nodup_range

theorem Balanced.count_closings_le (hb : s.Balanced) (ticket : Nat) :
    s.1.closings.count ticket ≤ 1 := by
  have hcount := congrArg (Multiset.count ticket) hb.custody
  rw [Multiset.count_add] at hcount
  simp only [Multiset.coe_count] at hcount
  have hone := List.nodup_iff_count_le_one.mp hb.nodup ticket
  omega

/-- No close is begun before the shutdown. -/
theorem Balanced.closings_eq_nil (hb : s.Balanced) (hs : s.1.Standing) (h : s.1.triggers = []) :
    s.1.closings = [] := by
  have hacc := hs.triggers_eq_nil_iff.mp h
  have hcauses : s.1.causes = [] := by
    cases hs with
    | awaited _ _ _ hcauses => exact hcauses
    | underWay hnot => simp [hnot] at hacc
    | ended hnot => simp [hnot] at hacc
  -- everything accepted is still with the coordinator, so custody leaves no room for a close
  have hheld : s.1.held = s.1.accepted := by
    rw [World.held, waiting_eq_nil_of_causes hcauses, List.map_nil, List.append_nil,
      hb.entries hacc]
  have hoffered : s.1.accepted = s.1.offered := by
    rw [hb.early, early_of_triggers_eq_nil h, World.offered]
  have hcustody := hb.custody
  rw [hheld, hoffered] at hcustody
  exact (Multiset.coe_eq_zero _).mp (add_eq_right.mp hcustody)

theorem Balanced.registered (hb : s.Balanced) (hs : s.1.Standing) :
    s.1.coordinator.registered = if s.1.triggers = [] then s.1.accepted.length else 0 := by
  have hiff := hs.triggers_eq_nil_iff
  cases hacc : s.1.coordinator.accepting with
  | true =>
    rw [if_pos (hiff.mpr hacc), ← hb.entries hacc, List.length_map, Coordinator.registered]
  | false =>
    have hsome : s.1.triggers ≠ [] := fun hnil => by
      rw [hiff.mp hnil] at hacc
      cases hacc
    rw [if_neg hsome]
    cases hs with
    | awaited hyes => simp [hyes] at hacc
    | underWay _ _ _ hentries => simp [Coordinator.registered, hentries]
    | ended _ _ _ hentries => simp [Coordinator.registered, hentries]

/-- Once the process has stopped, the close of everything that was handed over has begun. -/
theorem Balanced.closings_of_stopped (hb : s.Balanced) (hs : s.1.Standing)
    (h : s.1.coordinator.state = .stopped) : s.1.closings.Perm s.1.offered := by
  have hheld : s.1.held = [] := by
    cases hs with
    | awaited _ _ hstate => simp [h] at hstate
    | underWay _ _ hstate => simp [h] at hstate
    | ended _ _ _ hentries hcauses =>
      rw [World.held, hentries, waiting_eq_nil_of_causes hcauses]
      rfl
  have hcustody := hb.custody
  rw [hheld] at hcustody
  exact Multiset.coe_eq_coe.mp (by simpa using hcustody)

theorem Balanced.mem_offered_iff (hb : s.Balanced) {ticket : Nat} : ticket ∈ s.1.offered ↔
    ticket ∈ s.1.accepted ∨ (∃ c ∈ s.2, c.ticket = ticket) ∨ ticket ∈ s.1.refused ∨
      ticket ∈ s.1.dropped := by
  rw [← Multiset.mem_coe, ← hb.calls]
  simp only [Multiset.mem_add, Multiset.mem_coe, Multiset.mem_map, or_assoc]

theorem Balanced.mem_accepted_iff (hb : s.Balanced) {t ticket : Nat} {name : String}
    (h : (t, Note.register ticket name) ∈ s.1.notes) :
    ticket ∈ s.1.accepted ↔ (t, Note.register ticket name) ∈ s.1.early := by
  rw [hb.early]
  constructor
  · intro hmem
    obtain ⟨n, hn, hticket⟩ := List.mem_filterMap.mp hmem
    have hsame := Note.eq_of_pick_nodup hb.nodup h ((List.takeWhile_prefix _).subset hn) rfl hticket
    rw [hsame]
    exact hn
  · intro hmem
    exact List.mem_filterMap.mpr ⟨_, hmem, rfl⟩

theorem Traced.of_not_accepted {closeTimeout : Duration} (ht : s.Traced closeTimeout)
    (hb : s.Balanced) {t ticket : Nat} {name : String}
    (h : (t, Note.register ticket name) ∈ s.1.notes) (hnot : ticket ∉ s.1.accepted) :
    (∃ c ∈ s.2, c.ticket = ticket ∧ c.name = name ∧ c.due = t + closeTimeout.millis) ∨
      (∃ t', (t', Note.refused ticket (refusalMessage name)) ∈ s.1.notes) ∨
      ticket ∈ s.1.dropped := by
  have honly : ∀ t' name', (t', Note.register ticket name') ∈ s.1.notes →
      t' = t ∧ name' = name := by
    intro t' name' h'
    have hsame := Note.eq_of_pick_nodup hb.nodup h' h rfl rfl
    cases hsame
    exact ⟨rfl, rfl⟩
  rcases hb.mem_offered_iff.mp (World.mem_offered h) with
    haccepted | ⟨c, hc, rfl⟩ | hrefused | hdropped
  · exact absurd haccepted hnot
  · obtain ⟨t', hregister, hdue⟩ := ht.underWay c hc
    obtain ⟨rfl, hname⟩ := honly t' c.name hregister
    exact .inl ⟨c, hc, rfl, hname, hdue⟩
  · obtain ⟨⟨t', n⟩, hn, hticket⟩ := List.mem_filterMap.mp hrefused
    cases n with
    | refused ticket' message =>
      cases hticket
      obtain ⟨t'', name', hregister, rfl⟩ := ht.told t' ticket message hn
      obtain ⟨-, rfl⟩ := honly t'' name' hregister
      exact .inr (.inl ⟨t', hn⟩)
    | _ => cases hticket
  · exact .inr (.inr hdropped)

end Scene

/-- What holds of the closes of a world, whatever turns have led to it. -/
structure World.ClosesOnce (w : World α) : Prop where
  /-- Every hand-over has a ticket of its own. -/
  fresh : w.offered.Nodup
  once : ∀ ticket, w.closings.count ticket ≤ 1
  awaited : w.triggers = [] → w.closings = []
  accepted : ∀ t ticket name, (t, Note.register ticket name) ∈ w.notes →
    (ticket ∈ w.accepted ↔ (t, Note.register ticket name) ∈ w.early)
  registered : w.coordinator.registered = if w.triggers = [] then w.accepted.length else 0
  stopped : w.coordinator.state = .stopped → ∀ ticket ∈ w.accepted, w.closings.count ticket = 1

theorem Turns.closesOnce {closeTimeout : Duration} {s : Scene α}
    (h : Turns (Scene.start closeTimeout) s) : s.1.ClosesOnce := by
  have hs : s.1.Standing := Turns.standing h
  have hb : s.Balanced := Turns.balanced h
  refine ⟨hb.nodup, hb.count_closings_le, hb.closings_eq_nil hs,
    fun t ticket name => hb.mem_accepted_iff, hb.registered hs, fun hstate ticket hticket => ?_⟩
  have hoffered : ticket ∈ s.1.offered := hb.mem_offered_iff.mpr (.inl hticket)
  have hperm : s.1.closings.Perm s.1.offered := hb.closings_of_stopped hs hstate
  rw [hperm.count_eq]
  exact List.count_eq_one_of_mem hb.nodup hoffered

namespace Process

/-- What holds of the hand-overs and the closes of a process that has taken these choices. -/
structure ClosesOnce (closeTimeout : Duration) (choices : List (Choice α)) (p : Process α) : Prop
    extends World.ClosesOnce p.world, World.Answers closeTimeout p.world where
  /-- What is noted of calls are the calls that tasks and threads have made, in their order. -/
  made : p.world.calls = (start closeTimeout).made choices
  /-- A hand-over was accepted, is under way, was refused or was given up, and only one of these. -/
  calls : (p.world.accepted ++ p.refusals.map Closing.ticket ++ p.world.refused ++
    p.world.dropped).Perm p.world.offered
  /-- One that is not accepted is closed at once, and comes back with a refusal that names it. -/
  refused : ∀ t ticket name, (t, Note.register ticket name) ∈ p.world.notes →
    ticket ∉ p.world.accepted →
    (t, Event.closing ticket name) ∈ p.world.history ∧
      ((∃ c ∈ p.refusals, c.ticket = ticket ∧ c.name = name ∧ c.due = t + closeTimeout.millis) ∨
        (∃ t', (t', Note.refused ticket (refusalMessage name)) ∈ p.world.notes) ∨
        ticket ∈ p.world.dropped)
  /-- Nothing waits for such a close once its deadline has come. -/
  bounded : p.Settled → ∀ c ∈ p.refusals, p.world.now < c.due

/-- **No interleaving closes a resource twice, before the shutdown, or not at all.** -/
theorem run_closesOnce (closeTimeout : Duration) (choices : List (Choice α)) :
    (run closeTimeout choices).ClosesOnce closeTimeout choices := by
  have hturns := run_turns closeTimeout choices
  have hmade := run_calls closeTimeout choices
  generalize run closeTimeout choices = p at hturns hmade ⊢
  have hs : p.scene.1.Standing := Turns.standing hturns
  have hb : p.scene.Balanced := Turns.balanced hturns
  have ht : p.scene.Traced closeTimeout := Turns.traced hturns
  refine ⟨Turns.closesOnce hturns, hb.answers hs ht.timeout, hmade, ?_,
    fun t ticket name h hnot => ⟨?_, ?_⟩, Settled.now_lt_due⟩
  · refine Multiset.coe_eq_coe.mp ?_
    rw [← Multiset.coe_add, ← Multiset.coe_add, ← Multiset.coe_add, ← Multiset.map_coe]
    exact hb.calls
  · rcases ht.late t ticket name h with haccepted | hclosing
    · exact absurd haccepted hnot
    · exact hclosing
  · exact ht.of_not_accepted hb h hnot

-- the close of the bus hands over a resource of its own, too late
example : (@run Unit (.ofMillis 5) [.call [.register ⟨"bus", .substrate,
      [.register ⟨"late", .background, []⟩]⟩], .task 0, .call [.trigger .signal], .task 1,
      .thread 0, .thread 0, .thread 0, .thread 0, .thread 0]).world.closings = [0, 1] := by
  decide

end Process

end EventIntake.Lifecycle
