import EventIntake.Proofs.Lifecycle.Endings

/-!
# What the pass has in its care

A resource that was accepted is in the care of the coordinator, then of the pass, until its close
has ended (`World.keeps`).  Effects leave it there (`World.Retains`), and a step of the pass takes
it away with the very close that it settles (`Thread.step_closes`).  `World.Gains` puts the two
together: what was accepted is still kept, or its close stands in the books of the pass.
-/

namespace EventIntake.Lifecycle

variable {α : Type} {phases : Bool}

def Thread.closing : Thread α → List (Closing Unit)
  | .pass p => p.current.toList.map fun c => ⟨c.ticket, c.name, c.stage, c.due, ()⟩
  | .trigger _ _ | .finished => []

/-- The tickets of what a thread has to close, each until its close has ended. -/
def Thread.keeps (t : Thread α) : List Nat :=
  t.closing.map Closing.ticket ++ t.waiting.map Entry.ticket

namespace World

def closesUnderWay (w : World α) : List (Closing Unit) := w.threads.flatMap Thread.closing

/-- The tickets of what was accepted, each until its close has ended. -/
def keeps (w : World α) : List Nat :=
  w.coordinator.entries.map Entry.ticket ++ w.threads.flatMap Thread.keeps

theorem coe_keeps (w : World α) : (↑w.keeps : Multiset Nat) =
    ↑w.held + ↑(w.closesUnderWay.map Closing.ticket) := by
  have hthreads : ∀ l : List (Thread α), (↑(l.flatMap Thread.keeps) : Multiset Nat) =
      ↑((l.flatMap Thread.waiting).map Entry.ticket) +
        ↑((l.flatMap Thread.closing).map Closing.ticket) := by
    intro l
    induction l with
    | nil => rfl
    | cons t l ih =>
      simp only [List.flatMap_cons, List.map_append, ← Multiset.coe_add, ih, Thread.keeps]
      abel
  simp only [keeps, held, waiting, closesUnderWay, ← Multiset.coe_add, hthreads]
  abel

/-- The close was begun in sight of all, under a deadline of one close timeout. -/
def Begun (closeTimeout : Duration) (w : World α) (c : Closing Unit) : Prop :=
  ∃ t, (t, Event.closing c.ticket c.name) ∈ w.history ∧ c.due = t + closeTimeout.millis

/-- A close timeout has passed since the close of the resource was begun. -/
def HadItsTime (closeTimeout : Duration) (w : World α) (ticket : Nat) : Prop :=
  ∃ t name, (t, Event.closing ticket name) ∈ w.history ∧ t + closeTimeout.millis ≤ w.now

variable {closeTimeout : Duration} {w w' w'' : World α}

theorem Begun.mono {c : Closing Unit} (h : w.Begun closeTimeout c)
    (hhistory : w.history <+: w'.history) : w'.Begun closeTimeout c := by
  obtain ⟨t, hclosing, hdue⟩ := h
  exact ⟨t, hhistory.subset hclosing, hdue⟩

theorem HadItsTime.mono {ticket : Nat} (h : w.HadItsTime closeTimeout ticket)
    (hhistory : w.history <+: w'.history) (hnow : w.now ≤ w'.now) :
    w'.HadItsTime closeTimeout ticket := by
  obtain ⟨t, name, hclosing, htime⟩ := h
  exact ⟨t, name, hhistory.subset hclosing, htime.trans hnow⟩

theorem IsDue.hadItsTime {l : List (Closing Unit)} {ticket : Nat} (h : w.IsDue l ticket)
    (hbegun : ∀ c ∈ l, w.Begun closeTimeout c) : w.HadItsTime closeTimeout ticket := by
  obtain ⟨c, hc, rfl, hdue⟩ := h
  obtain ⟨t, hclosing, htime⟩ := hbegun c hc
  exact ⟨t, c.name, hclosing, htime ▸ hdue⟩

/-! ## What effects retain -/

/-- From `w` to `w'` whatever is accepted is kept, and the pass closes nothing. -/
structure Retains (w w' : World α) : Prop where
  custody : (↑w'.accepted + ↑w.keeps : Multiset Nat) = ↑w.accepted + ↑w'.keeps
  underWay : w'.closesUnderWay = w.closesUnderWay
  history : w.history <+: w'.history
  now : w.now ≤ w'.now

namespace Retains

theorem refl (w : World α) : w.Retains w := ⟨rfl, rfl, List.prefix_rfl, Nat.le_refl _⟩

theorem trans (h : w.Retains w') (h' : w'.Retains w'') : w.Retains w'' := by
  refine ⟨?_, h'.underWay.trans h.underWay, h.history.trans h'.history, h.now.trans h'.now⟩
  refine add_right_cancel (b := (↑w'.accepted + ↑w'.keeps : Multiset Nat)) ?_
  calc (↑w''.accepted + ↑w.keeps + (↑w'.accepted + ↑w'.keeps) : Multiset Nat)
      = (↑w''.accepted + ↑w'.keeps) + (↑w'.accepted + ↑w.keeps) := by abel
    _ = (↑w'.accepted + ↑w''.keeps) + (↑w.accepted + ↑w'.keeps) := by rw [h'.custody, h.custody]
    _ = ↑w.accepted + ↑w''.keeps + (↑w'.accepted + ↑w'.keeps) := by abel

/-- It is enough that nothing is accepted and no resource begins to be closed. -/
theorem of_same {l : List (Thread α)} (haccepted : w'.accepted = w.accepted)
    (hentries : w'.coordinator.entries = w.coordinator.entries)
    (hthreads : w'.threads = w.threads ++ l) (hkeeps : ∀ t ∈ l, t.keeps = [])
    (hhistory : w.history <+: w'.history) (hnow : w.now ≤ w'.now) : w.Retains w' := by
  have hclosing : ∀ t ∈ l, t.closing = [] := fun t ht =>
    List.map_eq_nil_iff.mp (List.append_eq_nil_iff.mp (hkeeps t ht)).1
  refine ⟨?_, ?_, hhistory, hnow⟩
  · rw [haccepted, keeps, keeps, hentries, hthreads, List.flatMap_append,
      List.flatMap_eq_nil_iff.mpr hkeeps, List.append_nil]
  · rw [closesUnderWay, hthreads, List.flatMap_append, List.flatMap_eq_nil_iff.mpr hclosing,
      List.append_nil, closesUnderWay]

theorem of_notes {l : List (Nat × Note)} (hnotes : w'.notes = w.notes ++ l)
    (haccepted : Note.pick Note.accepted? l = [])
    (hentries : w'.coordinator.entries = w.coordinator.entries) (hthreads : w'.threads = w.threads)
    (hhistory : w.history <+: w'.history) (hnow : w.now ≤ w'.now) : w.Retains w' := by
  refine of_same (l := []) ?_ hentries (by rw [hthreads, List.append_nil]) nofun hhistory hnow
  rw [accepted, hnotes, Note.pick_append, haccepted, List.append_nil, accepted]

end Retains

end World

theorem Effect.retains {a b : Scene α} (h : Effect phases a b) : a.1.Retains b.1 := by
  cases h with
  | quiet h hnotes =>
    obtain ⟨m, hm, -⟩ := h.history
    obtain ⟨n, hn, hasking⟩ := h.threads
    refine .of_same (h.pick_notes fun n hn => ?_) (by rw [h.coordinator]) hn (fun t ht => ?_)
      ⟨m, hm.symm⟩ h.now.ge
    · cases n <;> first | rfl | cases hn
    · have hask := hasking t ht
      cases t with
      | pass p => cases hask
      | trigger cause begun => rfl
      | finished => rfl
  | @accept w P r hacc =>
    refine ⟨?_, rfl, List.prefix_rfl, Nat.le_refl _⟩
    simp only [World.accepted, World.keeps, Note.pick_append, List.map_append, ← Multiset.coe_add]
    change _ + Multiset.ofList [w.coordinator.issued] + (_ + _) =
      _ + (_ + Multiset.ofList [w.coordinator.issued] + _)
    abel
  | refuse r h =>
    exact .of_notes rfl rfl rfl rfl (List.prefix_append _ _) (Nat.le_refl _)
  | settle c => exact .of_notes rfl rfl rfl rfl List.prefix_rfl (Nat.le_refl _)
  | giveUp l =>
    exact .of_notes rfl (by simp [Note.pick, Note.accepted?]) rfl rfl List.prefix_rfl
      (Nat.le_refl _)
  | @shutDown w P cause hacc =>
    have hperm := (closingOrder_perm w.coordinator.entries).map Entry.ticket
    refine ⟨?_, ?_, List.prefix_rfl, Nat.le_refl _⟩
    · have haccepted := Note.pick_append Note.accepted? w.notes
        [(w.now, .trigger cause), (w.now, .state .shuttingDown)]
      simp only [World.accepted, World.keeps, haccepted, List.flatMap_append, ← Multiset.coe_add]
      rw [← Multiset.coe_eq_coe.mpr hperm]
      simp [Thread.keeps, Thread.closing, Thread.waiting, Note.pick, Note.accepted?, add_comm]
    · simp [World.closesUnderWay, Thread.closing]
  | ask cause h => exact .of_notes rfl rfl rfl rfl List.prefix_rfl (Nat.le_refl _)
  | tell h => exact .of_notes rfl rfl rfl rfl List.prefix_rfl (Nat.le_refl _)
  | leave hs h => exact .of_notes rfl rfl rfl rfl List.prefix_rfl (Nat.le_refl _)

theorem Effects.retains {a b : Scene α} (h : Effects phases a b) : a.1.Retains b.1 := by
  induction h with
  | refl => exact .refl _
  | tail _ hstep ih => exact ih.trans hstep.retains

/-! ## Steps of a thread -/

theorem Pass.afterClose_next (w : World α) (p : Pass α) (c : Closing (Work α))
    (result : Option (Except String (Value α))) :
    ∃ q : Pass α, (p.afterClose w c result).2 = .pass q ∧ q.current = none ∧
      q.waiting = p.waiting := by
  unfold Pass.afterClose
  split
  · exact ⟨_, rfl, rfl, rfl⟩
  · exact ⟨_, rfl, rfl, rfl⟩

/-- What a step of a thread settles, with `late` and `own` as in `World.Settles`. -/
structure Thread.Closes (w : World α) (t : Thread α) (w' : World α) (t' : Thread α)
    (late own : List (Nat × Ending)) : Prop where
  settles : World.Settles (w.IsDue (t.refusals ++ t.closing)) w w' late own
  /-- What it has to close is no longer there when the close has ended. -/
  keeps : (↑t'.keeps + ↑(own.map Prod.fst) : Multiset Nat) = ↑t.keeps
  /-- A close that is under way was so before, or it has just begun. -/
  closing : ∀ c ∈ t'.closing, c ∈ t.closing ∨
    (w.now, Event.closing c.ticket c.name) ∈ w'.history ∧
      c.due = w.dueIn w.coordinator.closeTimeout

theorem Pass.afterClose_closes {w w' : World α} {p : Pass α} {c : Closing (Work α)}
    {result : Option (Except String (Value α))} {late : List (Nat × Ending)}
    (hcurrent : p.current = some c)
    (hlate : World.Settles (w.IsDue c.work.refusals) w w' late [])
    (hdue : result = none → c.due ≤ w.now) :
    Thread.Closes w (.pass p) (p.afterClose w' c result).1 (p.afterClose w' c result).2 late
      [(c.ticket, .ofResult result)] := by
  have hclosing : (Thread.pass p).closing = [⟨c.ticket, c.name, c.stage, c.due, ()⟩] := by
    simp [Thread.closing, hcurrent]
  have hrefusals : (Thread.pass p).refusals = c.work.refusals := by
    simp [Thread.refusals, hcurrent]
  have hend : World.Settles (w.IsDue ((Thread.pass p).refusals ++ (Thread.pass p).closing))
      _ _ _ _ :=
    Pass.afterClose_settles w' p c result fun hnone =>
      ⟨_, List.mem_append_right _ (hclosing ▸ List.mem_singleton_self _), rfl, hdue hnone⟩
  obtain ⟨q, hq, hnone, hwaiting⟩ := p.afterClose_next w' c result
  rw [hq]
  have hempty : (Thread.pass q).closing = [] := by simp [Thread.closing, hnone]
  have hsame : (Thread.pass q).waiting = p.waiting := hwaiting
  refine ⟨?_, ?_, by simp [hempty]⟩
  · have hboth := (hlate.mono (World.IsDue.mono (hrefusals ▸ List.subset_append_left _ _))).trans
      hend
    rwa [List.append_nil, List.nil_append] at hboth
  · rw [Thread.keeps, Thread.keeps, hempty, hsame, hclosing, add_comm]
    rfl

theorem Pass.Steps.closes {w w' : World α} {p : Pass α} {t : Thread α} (h : Pass.Steps w p w' t) :
    ∃ late own, Thread.Closes w (.pass p) w' t late own := by
  cases h with
  | @work w' c job hcurrent hjob =>
    have hrefusals : (Thread.pass p).refusals = c.work.refusals := by
      simp [Thread.refusals, hcurrent]
    obtain ⟨late, hlate⟩ := Work.step_settles hjob
    have hsame : (Thread.pass { p with current := some { c with work := job } }).closing =
        (Thread.pass p).closing := by simp [Thread.closing, hcurrent]
    refine ⟨late, [], hlate.mono (World.IsDue.mono (hrefusals ▸ List.subset_append_left _ _)),
      ?_, fun d hd => .inl (hsame ▸ hd)⟩
    rw [Thread.keeps, Thread.keeps, hsame]
    exact add_zero _
  | closed hcurrent hjob =>
    obtain ⟨late, hlate⟩ := Work.step_settles hjob
    exact ⟨_, _, Pass.afterClose_closes hcurrent hlate fun hnone => by cases hnone⟩
  | cutOff hcurrent hjob hdue =>
    exact ⟨_, _, Pass.afterClose_closes hcurrent (.refl w) fun _ => hdue⟩
  | @take e rest hcurrent hwaiting =>
    refine ⟨[], [], w.record_settles rfl rfl, ?_, fun c hc => .inr ?_⟩
    · simp [Thread.keeps, Thread.closing, Thread.waiting, hcurrent, hwaiting, World.beginClose]
    · rw [List.mem_singleton.mp hc]
      exact ⟨List.mem_append_right _ (List.mem_singleton_self _), rfl⟩
  | stop hcurrent hwaiting =>
    refine ⟨[], [], (w.coordinator_settles _).trans (World.note_settles _ rfl), ?_,
      fun c hc => by cases hc⟩
    simp [Thread.keeps, Thread.closing, Thread.waiting, hcurrent, hwaiting]

theorem Thread.step_closes {w w' : World α} {t t' : Thread α} (h : t.step w = some (w', t')) :
    ∃ late own, Thread.Closes w t w' t' late own := by
  cases Thread.step_steps h with
  | ask cause => exact ⟨[], [], w.trigger_settles cause, rfl, fun c hc => by cases hc⟩
  | told hr cause => exact ⟨[], [], w.note_settles rfl, rfl, fun c hc => by cases hc⟩
  | pass h => exact h.closes

/-- The pass keeps what it has until it closes it, and nothing else changes by its own moves. -/
theorem Thread.Move.retains {w w' : World α} {t t' : Thread α} (h : Thread.Move w t w' t') :
    w.Retains w' := by
  cases h with
  | work h => exact h.retains
  | take hcurrent hwaiting =>
    exact .of_notes (l := []) (by simp [World.record]) rfl rfl rfl (List.prefix_append _ _)
      (Nat.le_refl _)
  | stop => exact .of_notes rfl rfl rfl rfl List.prefix_rfl (Nat.le_refl _)

/-! ## What the books gain -/

/-- From `w` to `w'` the closes of `late` and `own` have ended: `late` those of refused hand-overs,
and `own` those that the pass has made, of resources that were kept until then. -/
structure World.Gains (closeTimeout : Duration) (w w' : World α) (late own : List (Nat × Ending)) :
    Prop where
  settles : World.Settles (w'.HadItsTime closeTimeout) w w' late own
  custody : (↑w'.accepted + ↑w.keeps : Multiset Nat) =
    ↑w.accepted + ↑w'.keeps + ↑(own.map Prod.fst)
  underWay : ∀ c ∈ w'.closesUnderWay, c ∈ w.closesUnderWay ∨ w'.Begun closeTimeout c
  history : w.history <+: w'.history
  now : w.now ≤ w'.now

namespace World

variable {closeTimeout : Duration} {w w' w'' : World α} {late late' own own' : List (Nat × Ending)}

theorem Gains.refl (w : World α) : w.Gains closeTimeout w [] [] :=
  ⟨.refl w, (add_zero _).symm, fun _ hc => .inl hc, List.prefix_rfl, Nat.le_refl _⟩

theorem Gains.trans (h : w.Gains closeTimeout w' late own)
    (h' : w'.Gains closeTimeout w'' late' own') :
    w.Gains closeTimeout w'' (late ++ late') (own ++ own') := by
  refine ⟨?_, ?_, fun c hc => ?_, h.history.trans h'.history, h.now.trans h'.now⟩
  · exact (h.settles.mono fun ticket ht => ht.mono h'.history h'.now).trans h'.settles
  · refine add_right_cancel (b := (↑w'.accepted + ↑w'.keeps : Multiset Nat)) ?_
    rw [List.map_append, ← Multiset.coe_add]
    calc (↑w''.accepted + ↑w.keeps + (↑w'.accepted + ↑w'.keeps) : Multiset Nat)
        = (↑w''.accepted + ↑w'.keeps) + (↑w'.accepted + ↑w.keeps) := by abel
      _ = (↑w'.accepted + ↑w''.keeps + ↑(own'.map Prod.fst)) +
          (↑w.accepted + ↑w'.keeps + ↑(own.map Prod.fst)) := by rw [h'.custody, h.custody]
      _ = ↑w.accepted + ↑w''.keeps + (↑(own.map Prod.fst) + ↑(own'.map Prod.fst)) +
          (↑w'.accepted + ↑w'.keeps) := by abel
  · rcases h'.underWay c hc with hbefore | hbegun
    · exact (h.underWay c hbefore).imp id fun hbegun => hbegun.mono h'.history
    · exact .inr hbegun

/-- Where what was accepted is kept, only refused hand-overs have come back. -/
theorem Retains.gains {l : List (Closing Unit)} (h : w.Retains w') (hlate : SettlesLate l w w')
    (hbegun : ∀ c ∈ l, w.Begun closeTimeout c) :
    ∃ late own, w.Gains closeTimeout w' late own := by
  obtain ⟨late, hsettles⟩ := hlate
  refine ⟨late, [], hsettles.mono fun ticket hdue => ?_, ?_, fun c hc => .inl (h.underWay ▸ hc),
    h.history, h.now⟩
  · exact (hdue.hadItsTime hbegun).mono h.history h.now
  · exact h.custody.trans (add_zero _).symm

/-- **What a thread no longer keeps after a step has been settled by it**, and with it the refused
hand-overs that came back. -/
theorem stepThread_gains {i : Nat} (h : w.stepThread i = some w')
    (hbegun : ∀ c ∈ w.refusals ++ w.closesUnderWay, w.Begun closeTimeout c)
    (htimeout : w.coordinator.closeTimeout = closeTimeout) :
    ∃ late own, w.Gains closeTimeout w' late own := by
  obtain ⟨t, w₁, t', ht, hstep, rfl⟩ := stepThread_steps h
  have hmove := Thread.step_move hstep
  have hretains := hmove.retains
  obtain ⟨late, own, hcloses⟩ := Thread.step_closes hstep
  obtain ⟨l, hl, -⟩ := hmove.threads
  have hi : w₁.threads[i]? = some t := by
    rw [hl, List.getElem?_append_left (List.getElem?_eq_some_iff.mp ht).1]
    exact ht
  have hmem : t ∈ w.threads := List.mem_of_getElem? ht
  refine ⟨late, own, ?_, ?_, fun c hc => ?_, hretains.history, hretains.now⟩
  · -- replacing the thread is no part of what is settled
    have hset : Settles (w.IsDue (t.refusals ++ t.closing)) w
        { w₁ with threads := w₁.threads.set i t' } late own :=
      ⟨hcloses.settles.closed, hcloses.settles.failed, hcloses.settles.refused,
        hcloses.settles.warned, hcloses.settles.counted, hcloses.settles.cutOff⟩
    refine hset.mono fun ticket hdue => ?_
    refine (hdue.hadItsTime fun c hc => hbegun c ?_).mono hretains.history hretains.now
    rcases List.mem_append.mp hc with hc | hc
    · exact List.mem_append_left _ (List.mem_flatMap.mpr ⟨t, hmem, hc⟩)
    · exact List.mem_append_right _ (List.mem_flatMap.mpr ⟨t, hmem, hc⟩)
  · have hkeeps := coe_flatMap_set Thread.keeps hi t'
    have hcustody := hretains.custody
    rw [← hcloses.keeps] at hkeeps
    have hthreads : Multiset.ofList (w₁.threads.flatMap Thread.keeps) =
        ↑((w₁.threads.set i t').flatMap Thread.keeps) + ↑(own.map Prod.fst) := by
      refine add_right_cancel (b := Multiset.ofList t'.keeps) ?_
      rw [← hkeeps]
      abel
    simp only [keeps, ← Multiset.coe_add] at hcustody ⊢
    rw [hthreads] at hcustody
    refine hcustody.trans ?_
    abel
  · obtain ⟨u, hu, hclose⟩ := List.mem_flatMap.mp hc
    rcases List.mem_or_eq_of_mem_set hu with hu | rfl
    · refine .inl (hretains.underWay ▸ ?_)
      exact List.mem_flatMap.mpr ⟨u, hu, hclose⟩
    · refine (hcloses.closing c hclose).imp (fun hc => List.mem_flatMap.mpr ⟨t, hmem, hc⟩) ?_
      rintro ⟨hclosing, hdue⟩
      exact ⟨w.now, hclosing, by rw [hdue, dueIn, htimeout]⟩

end World

end EventIntake.Lifecycle
