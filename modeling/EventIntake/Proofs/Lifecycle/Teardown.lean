import EventIntake.Proofs.Lifecycle.Beside
import EventIntake.Proofs.Lifecycle.Forecast

/-!
# The pass over the resources

`World.Passing` says how far the pass is: the resources in `order` up to some place are closed, each
from the instant at which the one before it ended, the next one may be under way, and the others
wait.  It is kept by every step of every thread and by the clock, and the pass is due whenever it
waits, so it comes to its end whatever the closes do.
-/

namespace EventIntake.Lifecycle

variable {α : Type}

/-- What the close of a resource adds to the report: nothing when it succeeds in time. -/
def Resource.failure? (g : Regime) (r : Resource (Action α)) : Option CloseFailure :=
  match (resourceCourse g r).2 with
  | some (.ok _) => none
  | some (.error reason) => some ⟨r.name, r.stage, reason⟩
  | none => some ⟨r.name, r.stage, "close timed out after " ++ g.closeTimeout.text⟩

theorem Resource.failure?_eq_none_iff (g : Regime) (r : Resource (Action α)) :
    r.failure? g = none ↔ ∃ v, (resourceCourse g r).2 = some (.ok v) := by
  unfold Resource.failure?
  match (resourceCourse g r).2 with
  | some (.ok v) => simp
  | some (.error reason) => simp
  | none => simp

namespace Entry

def time (g : Regime) (e : Entry α) : Nat :=
  match actionsCourse g e.resource.close .nothing with
  | some (d, _) => min d g.closeTimeout.millis
  | none => g.closeTimeout.millis

theorem time_eq (g : Regime) (e : Entry α) : e.time g = (resourceCourse g e.resource).1 := by
  rw [resourceCourse_eq, Course.cutOff_fst, time]
  cases actionsCourse g e.resource.close .nothing <;> rfl

def ended? (g : Regime) (e : Entry α) : Option Event :=
  match (resourceCourse g e.resource).2 with
  | some (.ok _) => some (.closed e.ticket e.resource.name)
  | some (.error _) => some (.closeFailed e.ticket e.resource.name)
  | none => none

end Entry

def closeTime (g : Regime) (entries : List (Entry α)) : Nat := (entries.map (Entry.time g)).sum

def begins (g : Regime) (t : Nat) : List (Entry α) → List (Nat × Nat × String)
  | [] => []
  | e :: rest => (t, e.ticket, e.resource.name) :: begins g (t + e.time g) rest

def endings (g : Regime) (t : Nat) : List (Entry α) → List (Nat × Event)
  | [] => []
  | e :: rest => (e.ended? g).toList.map (t + e.time g, ·) ++ endings g (t + e.time g) rest

theorem closeTime_append (g : Regime) (l l' : List (Entry α)) :
    closeTime g (l ++ l') = closeTime g l + closeTime g l' := by
  rw [closeTime, List.map_append, List.sum_append, closeTime, closeTime]

theorem closeTime_concat (g : Regime) (l : List (Entry α)) (e : Entry α) :
    closeTime g (l ++ [e]) = closeTime g l + e.time g := by
  rw [closeTime_append]
  simp [closeTime]

theorem begins_concat (g : Regime) (t : Nat) (l : List (Entry α)) (e : Entry α) :
    begins g t (l ++ [e]) = begins g t l ++ [(t + closeTime g l, e.ticket, e.resource.name)] := by
  induction l generalizing t with
  | nil => simp [begins, closeTime]
  | cons f l ih =>
    rw [List.cons_append, begins, ih, begins, List.cons_append]
    simp [closeTime, Nat.add_assoc]

theorem endings_concat (g : Regime) (t : Nat) (l : List (Entry α)) (e : Entry α) :
    endings g t (l ++ [e]) =
      endings g t l ++ (e.ended? g).toList.map (t + closeTime g (l ++ [e]), ·) := by
  induction l generalizing t with
  | nil => simp [endings, closeTime]
  | cons f l ih =>
    rw [List.cons_append, endings, ih, endings, List.append_assoc]
    simp [closeTime, Nat.add_assoc]

theorem le_of_mem_begins {g : Regime} {t : Nat} {l : List (Entry α)} {b : Nat × Nat × String}
    (h : b ∈ begins g t l) : ∃ e ∈ l, b.2.1 = e.ticket := by
  induction l generalizing t with
  | nil => cases h
  | cons e l ih =>
    rcases List.mem_cons.mp h with rfl | h
    · exact ⟨e, List.mem_cons_self, rfl⟩
    · obtain ⟨f, hf, hsame⟩ := ih h
      exact ⟨f, List.mem_cons_of_mem e hf, hsame⟩

/-- Every resource of an order without duplicates is closed once, and in time. -/
theorem begins_filter (g : Regime) (t : Nat) {l : List (Entry α)}
    (hnodup : l.Pairwise fun e f => e.ticket ≠ f.ticket) {e : Entry α} (he : e ∈ l) :
    ∃ c, t ≤ c ∧ c + e.time g ≤ t + closeTime g l ∧
      (begins g t l).filter (·.2.1 = e.ticket) = [(c, e.ticket, e.resource.name)] := by
  induction l generalizing t with
  | nil => cases he
  | cons f l ih =>
    obtain ⟨hfirst, hrest⟩ := List.pairwise_cons.mp hnodup
    rcases List.mem_cons.mp he with rfl | he
    · have hnone : (begins g (t + e.time g) l).filter (·.2.1 = e.ticket) = [] := by
        refine List.filter_eq_nil_iff.mpr fun b hb hsame => ?_
        obtain ⟨f, hf, hticket⟩ := le_of_mem_begins hb
        exact hfirst f hf ((of_decide_eq_true hsame).symm.trans hticket)
      refine ⟨t, Nat.le_refl t, ?_, ?_⟩
      · simp [closeTime]
      · rw [begins, List.filter_cons_of_pos (by simp), hnone]
    · obtain ⟨c, hc, hle, hfilter⟩ := ih (t + f.time g) hrest he
      refine ⟨c, Nat.le_trans (Nat.le_add_right _ _) hc, ?_, ?_⟩
      · rw [closeTime, List.map_cons, List.sum_cons, ← Nat.add_assoc]
        exact hle
      · rw [begins, List.filter_cons_of_neg (by simpa using hfirst e he), hfilter]

/-- Where a pass in thread `i` is that began at `start`. -/
inductive World.PassStand (g : Regime) (n : Nat) (cause : Cause) (start : Nat)
    (order : List (Entry α)) (i : Nat) (w : World α) : Prop
  | between (done rest : List (Entry α)) (horder : order = done ++ rest)
      (ht : w.threads[i]? = some (.pass ⟨cause, none, rest, done.map (·.resource.name),
        done.filterMap (·.resource.failure? g)⟩))
      (hnow : w.now = start + closeTime g done) (hbegun : w.begun n = begins g start done)
      (hended : endings g start done ⊆ w.history) (hunder : w.Under g)
  | closing (done rest : List (Entry α)) (e : Entry α) (c : Closing (Work α))
      (horder : order = done ++ e :: rest)
      (ht : w.threads[i]? = some (.pass ⟨cause, some c, rest, (done ++ [e]).map (·.resource.name),
        done.filterMap (·.resource.failure? g)⟩))
      (hc : c.ticket = e.ticket ∧ c.name = e.resource.name ∧ c.stage = e.resource.stage)
      (hends : c.ends g w.now =
        (start + closeTime g (done ++ [e]), (resourceCourse g e.resource).2))
      (hbegun : w.begun n = begins g start (done ++ [e]))
      (hended : endings g start done ⊆ w.history) (hunder : w.Under g)
  | ended (ht : w.threads[i]? = some .finished)
      (hreport : w.coordinator.report = some ⟨cause, order.map (·.resource.name),
        order.filterMap (·.resource.failure? g)⟩)
      (hstate : w.coordinator.state = .stopped) (hnow : w.now = start + closeTime g order)
      (hstopped : (start + closeTime g order, Note.state .stopped) ∈ w.notes)
      (hbegun : w.begun n = begins g start order) (hended : endings g start order ⊆ w.history)

/-- A pass over `order` in thread `i`, the only one there is, that began at `start`. -/
structure World.Passing (g : Regime) (n : Nat) (cause : Cause) (start : Nat)
    (order : List (Entry α)) (i : Nat) (w : World α) : Prop where
  regime : g.accepting = false
  tickets : ∀ e ∈ order, e.ticket < n
  accepting : w.coordinator.accepting = false
  issued : n ≤ w.coordinator.issued
  others : ∀ j t, j ≠ i → w.threads[j]? = some t → t.causes = []
  stand : w.PassStand g n cause start order i

variable {g : Regime} {n : Nat} {cause : Cause} {start : Nat} {order : List (Entry α)} {i : Nat}
variable {w w' : World α}

theorem World.Under.beside (hw : w.Under g) (h : w.Beside n w') : w'.Under g :=
  ⟨h.closeTimeout.trans hw.closeTimeout, h.accepting.trans hw.accepting, h.report.trans hw.report⟩

theorem World.Passing.beside (hp : w.Passing g n cause start order i) (h : w.Beside n w') :
    w'.Passing g n cause start order i := by
  refine ⟨hp.regime, hp.tickets, h.accepting.trans hp.accepting, Nat.le_trans hp.issued h.issued,
    fun j t hj ht => ?_, ?_⟩
  · obtain ⟨l, hl, hnone⟩ := h.threads
    rw [hl] at ht
    by_cases hlt : j < w.threads.length
    · rw [List.getElem?_append_left hlt] at ht
      exact hp.others j t hj ht
    · rw [List.getElem?_append_right (Nat.le_of_not_lt hlt)] at ht
      exact hnone t (List.mem_of_getElem? ht)
  · cases hp.stand with
    | between done rest horder ht hnow hbegun hended hunder =>
      exact .between done rest horder (h.getElem?_threads ht) (h.now.trans hnow)
        (h.begun.trans hbegun) (fun x hx => h.history.subset (hended hx)) (hunder.beside h)
    | closing done rest e c horder ht hc hends hbegun hended hunder =>
      exact .closing done rest e c horder (h.getElem?_threads ht) hc (h.now ▸ hends)
        (h.begun.trans hbegun) (fun x hx => h.history.subset (hended hx)) (hunder.beside h)
    | ended ht hreport hstate hnow hstopped hbegun hended =>
      obtain ⟨l, hl, -⟩ := h.notes
      refine .ended (h.getElem?_threads ht) (h.report.trans hreport) (h.stopped hstate)
        (h.now.trans hnow) ?_ (h.begun.trans hbegun) fun x hx => h.history.subset (hended hx)
      rw [hl]
      exact List.mem_append_left l hstopped

/-- Another thread may come to anything that is no pass. -/
theorem World.Passing.set (hp : w.Passing g n cause start order i) {j : Nat} (hj : j ≠ i)
    {t : Thread α} (ht : t.causes = []) :
    World.Passing g n cause start order i { w with threads := w.threads.set j t } := by
  have hsame : ∀ u, w.threads[i]? = some u → (w.threads.set j t)[i]? = some u := fun u hu => by
    rw [List.getElem?_set_ne hj]
    exact hu
  refine ⟨hp.regime, hp.tickets, hp.accepting, hp.issued, fun k u hk hu => ?_, ?_⟩
  · by_cases hkj : j = k
    · subst hkj
      rw [List.getElem?_set] at hu
      split at hu
      · split at hu
        · cases hu
          exact ht
        · cases hu
      · exact hp.others j u hk hu
    · exact hp.others k u hk (by simpa [List.getElem?_set_ne hkj] using hu)
  · cases hp.stand with
    | between done rest horder ht hnow hbegun hended hunder =>
      exact .between done rest horder (hsame _ ht) hnow hbegun hended
        ⟨hunder.closeTimeout, hunder.accepting, hunder.report⟩
    | closing done rest e c horder ht hc hends hbegun hended hunder =>
      exact .closing done rest e c horder (hsame _ ht) hc hends hbegun hended
        ⟨hunder.closeTimeout, hunder.accepting, hunder.report⟩
    | ended ht hreport hstate hnow hstopped hbegun hended =>
      exact .ended (hsame _ ht) hreport hstate hnow hstopped hbegun hended

/-! ## Steps of the pass -/

theorem World.Beside.of_failure (w : World α) (e : CloseFailure) :
    w.Beside n ((w.warn "Resource failed to close"
      [("resource", e.resource), ("reason", e.reason)]).count Metrics.teardownError) :=
  .of_journal _

theorem Pass.afterClose_eq (hw : w.Under g) (p : Pass α) {c : Closing (Work α)} {e : Entry α}
    (hc : c.ticket = e.ticket ∧ c.name = e.resource.name ∧ c.stage = e.resource.stage) :
    ∃ w', p.afterClose w c (resourceCourse g e.resource).2 =
        (w', .pass { p with
          current := none
          errors := p.errors ++ (e.resource.failure? g).toList }) ∧
      w.Beside n w' ∧ ∀ x, e.ended? g = some x → (w.now, x) ∈ w'.history := by
  obtain ⟨hticket, hname, hstage⟩ := hc
  match h : (resourceCourse g e.resource).2 with
  | some (.ok v) =>
    refine ⟨w.record (.closed c.ticket c.name), ?_, .of_record rfl, fun x hx => ?_⟩
    · simp [Pass.afterClose, World.endClose, Resource.failure?, h]
    · simp only [Entry.ended?, h, Option.some.injEq] at hx
      subst hx
      rw [hticket, hname]
      exact List.mem_append_right _ (List.mem_singleton.mpr rfl)
  | some (.error reason) =>
    have hrecord : w.Beside n (w.record (.closeFailed c.ticket c.name)) := .of_record rfl
    refine ⟨_, ?_, hrecord.trans (.of_failure _ ⟨e.resource.name, e.resource.stage, reason⟩),
      fun x hx => ?_⟩
    · simp only [Pass.afterClose, World.endClose, Resource.failure?, h, hname, hstage]
      rfl
    · simp only [Entry.ended?, h, Option.some.injEq] at hx
      subst hx
      rw [hticket, hname]
      exact List.mem_append_right _ (List.mem_singleton.mpr rfl)
  | none =>
    have hdropped : w.Beside n (w.giveUp c.work.refusals) :=
      .of_notes (by simp [Note.isAside])
    refine ⟨_, ?_, hdropped.trans (.of_failure _ ⟨e.resource.name, e.resource.stage,
      "close timed out after " ++ g.closeTimeout.text⟩), fun x hx => ?_⟩
    · simp only [Pass.afterClose, World.endClose, Resource.failure?, h, hname, hstage,
        hw.closeTimeout]
      rfl
    · simp only [Entry.ended?, h] at hx
      cases hx

theorem others_set {l : List (Thread α)} (h : ∀ j t, j ≠ i → l[j]? = some t → t.causes = [])
    (u : Thread α) : ∀ j t, j ≠ i → (l.set i u)[j]? = some t → t.causes = [] := by
  intro j t hj ht
  rw [List.getElem?_set_ne (Ne.symm hj)] at ht
  exact h j t hj ht

theorem getElem?_set_self_of {l : List (Thread α)} {t : Thread α} (ht : l[i]? = some t)
    (u : Thread α) : (l.set i u)[i]? = some u := by
  rw [List.getElem?_set_self (List.getElem?_eq_some_iff.mp ht).1]

/-- After a close has ended, whatever became of it, the pass is between two closes. -/
theorem World.Passing.afterClose {w₁ : World α} {done rest : List (Entry α)} {e : Entry α}
    {c : Closing (Work α)} {result : Option (Except String (Value α))} {t' : Thread α}
    (hp : w₁.Passing g n cause start order i) (horder : order = done ++ e :: rest)
    (ht : w₁.threads[i]? = some (.pass ⟨cause, some c, rest, (done ++ [e]).map (·.resource.name),
      done.filterMap (·.resource.failure? g)⟩))
    (hc : c.ticket = e.ticket ∧ c.name = e.resource.name ∧ c.stage = e.resource.stage)
    (hends : (w₁.now, result) =
      (start + closeTime g (done ++ [e]), (resourceCourse g e.resource).2))
    (hbegun : w₁.begun n = begins g start (done ++ [e]))
    (hended : endings g start done ⊆ w₁.history) (hunder : w₁.Under g)
    (h : Pass.afterClose w₁ ⟨cause, some c, rest, (done ++ [e]).map (·.resource.name),
      done.filterMap (·.resource.failure? g)⟩ c result = (w', t')) :
    World.Passing g n cause start order i { w' with threads := w'.threads.set i t' } := by
  obtain ⟨hnow, hresult⟩ := Prod.mk.inj hends
  obtain ⟨w₂, hafter, hbeside, hseen⟩ := Pass.afterClose_eq (n := n) hunder
    ⟨cause, some c, rest, (done ++ [e]).map (·.resource.name),
      done.filterMap (·.resource.failure? g)⟩ hc
  rw [hresult, hafter] at h
  cases h
  have hp' := hp.beside hbeside
  have herrors : done.filterMap (·.resource.failure? g) ++ (e.resource.failure? g).toList =
      (done ++ [e]).filterMap (·.resource.failure? g) := by
    rw [List.filterMap_append]
    cases hfailure : e.resource.failure? g <;> simp [hfailure]
  refine ⟨hp'.regime, hp'.tickets, hp'.accepting, hp'.issued, others_set hp'.others _, ?_⟩
  refine .between (done ++ [e]) rest (by simp [horder]) ?_ (hbeside.now.trans hnow)
    (hbeside.begun.trans hbegun) ?_ ?_
  · rw [getElem?_set_self_of (hbeside.getElem?_threads ht), herrors]
  · rw [endings_concat]
    intro x hx
    rcases List.mem_append.mp hx with hx | hx
    · exact hbeside.history.subset (hended hx)
    · obtain ⟨y, hy, rfl⟩ := List.mem_map.mp hx
      rw [← hnow]
      exact hseen y (Option.mem_toList.mp hy)
  · have hunder' := hunder.beside hbeside
    exact ⟨hunder'.closeTimeout, hunder'.accepting, hunder'.report⟩

/-- **A step of the pass goes on with the order it was given.** -/
theorem World.Passing.stepThread_self (hp : w.Passing g n cause start order i)
    (h : w.stepThread i = some w') : w'.Passing g n cause start order i := by
  obtain ⟨t, w₁, t', hthread, hstep, rfl⟩ := World.stepThread_steps h
  cases hp.stand with
  | between done rest horder ht hnow hbegun hended hunder =>
    obtain rfl := Option.some.inj (ht.symm.trans hthread)
    rw [Thread.step, Pass.step] at hstep
    cases rest with
    | nil =>
      rw [List.append_nil] at horder
      subst horder
      cases hstep
      refine ⟨hp.regime, hp.tickets, hp.accepting, hp.issued, others_set hp.others _, ?_⟩
      refine .ended (getElem?_set_self_of ht _) rfl rfl hnow ?_ hbegun hended
      rw [← hnow]
      exact List.mem_append_right _ (List.mem_singleton.mpr rfl)
    | cons e rest =>
      -- the close of `e` begins when those before it are over
      cases hstep
      have hmem : e ∈ order := by
        rw [horder]
        exact List.mem_append_right _ List.mem_cons_self
      have hticket := hp.tickets e hmem
      refine ⟨hp.regime, hp.tickets, hp.accepting, hp.issued, others_set hp.others _, ?_⟩
      refine .closing done rest e (w.beginClose e.ticket e.resource).2 horder ?_ ⟨rfl, rfl, rfl⟩ ?_
        ?_ (fun x hx => List.mem_append_left _ (hended hx))
        ⟨hunder.closeTimeout, hunder.accepting, hunder.report⟩
      · rw [List.map_append]
        exact getElem?_set_self_of ht _
      · have hbegin := World.beginClose_ends hunder e.ticket e.resource
        rw [closeTime_concat, ← Nat.add_assoc, ← hnow, Entry.time_eq]
        exact hbegin
      · rw [begins_concat, ← hbegun, ← hnow]
        simp [World.begun, World.record, Event.closing?, hticket]
  | closing done rest e c horder ht hc hends hbegun hended hunder =>
    obtain rfl := Option.some.inj (ht.symm.trans hthread)
    cases Thread.step_steps hstep with
    | pass hpass =>
      cases hpass with
      | @work _ d job hcurrent hjob =>
        obtain rfl : c = d := Option.some.inj hcurrent
        -- what the close does is beside the pass, and its end is where it was foreseen
        have hbeside : w.Beside n w₁ :=
          Effects.beside (Work.step_effects hjob) hp.accepting hp.issued
        have hp' := hp.beside hbeside
        have hsame := Work.step_ends hunder hjob
        change job.ends g w.now = _ at hsame
        refine ⟨hp'.regime, hp'.tickets, hp'.accepting, hp'.issued, others_set hp'.others _, ?_⟩
        have hunder' := hunder.beside hbeside
        refine .closing done rest e { c with work := job } horder
          (getElem?_set_self_of (hbeside.getElem?_threads ht) _) hc ?_
          (hbeside.begun.trans hbegun) (fun x hx => hbeside.history.subset (hended hx))
          ⟨hunder'.closeTimeout, hunder'.accepting, hunder'.report⟩
        rw [← hends]
        change Course.cutOff (max w₁.now c.due) (job.ends g w₁.now) = _
        rw [hbeside.now, hsame, Closing.ends]
      | @closed w₂ d result hcurrent hjob =>
        obtain rfl : c = d := Option.some.inj hcurrent
        have hbeside : w.Beside n w₂ :=
          Effects.beside (Work.step_effects hjob) hp.accepting hp.issued
        have hsame := Work.step_ends hunder hjob
        change some (w.now, result) = _ at hsame
        rw [Closing.ends, ← hsame, Course.cutOff_now, ← hbeside.now] at hends
        exact (hp.beside hbeside).afterClose horder (hbeside.getElem?_threads ht) hc hends
          (hbeside.begun.trans hbegun) (fun x hx => hbeside.history.subset (hended hx))
          (hunder.beside hbeside) rfl
      | @cutOff d hcurrent hjob hdue =>
        obtain rfl : c = d := Option.some.inj hcurrent
        rw [Closing.ends, Work.cutOff_of_due hjob hdue] at hends
        exact hp.afterClose horder ht hc hends hbegun hended hunder rfl
      | take hcurrent => cases hcurrent
      | stop hcurrent => cases hcurrent
  | ended ht =>
    obtain rfl := Option.some.inj (ht.symm.trans hthread)
    cases hstep

theorem World.stepThread_getElem? {j k : Nat} {t : Thread α} (h : w.stepThread j = some w')
    (hk : j ≠ k) (ht : w.threads[k]? = some t) : w'.threads[k]? = some t := by
  obtain ⟨u, w₁, u', -, hstep, rfl⟩ := World.stepThread_steps h
  obtain ⟨l, hl, -⟩ := (Thread.step_move hstep).threads
  change (w₁.threads.set j u')[k]? = some t
  rw [List.getElem?_set_ne hk, hl,
    List.getElem?_append_left (List.getElem?_eq_some_iff.mp ht).1]
  exact ht

/-- **No step of any thread leads the pass astray.** -/
theorem World.Passing.stepThread (hp : w.Passing g n cause start order i) {j : Nat}
    (h : w.stepThread j = some w') : w'.Passing g n cause start order i := by
  by_cases hj : j = i
  · subst hj
    exact hp.stepThread_self h
  · obtain ⟨t, w₁, t', ht, hstep, rfl⟩ := World.stepThread_steps h
    have hcauses := hp.others j t hj ht
    cases Thread.step_move hstep with
    | work heffects hsame =>
      exact (hp.beside (heffects.beside hp.accepting hp.issued)).set hj (hsame.trans hcauses)
    | take => cases hcauses
    | stop => cases hcauses

theorem World.Passing.step (hp : w.Passing g n cause start order i) (h : w.step = some w') :
    w'.Passing g n cause start order i := by
  obtain ⟨j, -, hj⟩ := List.exists_of_findSome?_eq_some h
  exact hp.stepThread hj

/-- A pass that is over stays so. -/
theorem World.step_finished (h : w.step = some w') (ht : w.threads[i]? = some .finished) :
    w'.threads[i]? = some .finished := by
  obtain ⟨j, -, hj⟩ := List.exists_of_findSome?_eq_some h
  have hother : j ≠ i := by
    rintro rfl
    simp [World.stepThread, ht, Thread.step] at hj
  exact World.stepThread_getElem? hj hother ht

/-- Once the shutdown has begun, nothing is accepted any more, and threads begin no phases. -/
theorem World.step_log (hacc : w.coordinator.accepting = false) (h : w.step = some w') :
    w'.phases = w.phases ∧ w'.accepted = w.accepted := by
  obtain ⟨j, -, hj⟩ := List.exists_of_findSome?_eq_some h
  obtain ⟨t, w₁, t', ht, hstep, rfl⟩ := World.stepThread_steps hj
  change w₁.phases = w.phases ∧ w₁.accepted = w.accepted
  cases Thread.step_move hstep with
  | work heffects =>
    have hbeside : w.Beside 0 w₁ := heffects.beside hacc (Nat.zero_le _)
    exact ⟨hbeside.phases, hbeside.accepted⟩
  | take => exact ⟨rfl, rfl⟩
  | stop =>
    have haside : ∀ x ∈ [(w.now, Note.state .stopped)], x.2.isAside := by simp [Note.isAside]
    exact ⟨World.phases_of_aside rfl haside, World.accepted_of_aside rfl haside⟩

/-! ## The clock -/

theorem foldl_earlier_le {β : Type} {f : β → Option Nat} {l : List β} {due : Option Nat} {d : Nat}
    (h : due = some d ∨ ∃ x ∈ l, f x = some d) :
    ∃ t, l.foldl (fun due x => earlier due (f x)) due = some t ∧ t ≤ d := by
  induction l generalizing due d with
  | nil =>
    rcases h with h | ⟨x, hx, -⟩
    · exact ⟨d, h, Nat.le_refl d⟩
    · cases hx
  | cons x l ih =>
    rcases h with rfl | ⟨y, hy, hf⟩
    · obtain ⟨t, ht, hle⟩ := earlier_le_left d (f x)
      obtain ⟨t', ht', hle'⟩ := @ih (earlier (some d) (f x)) t (.inl ht)
      exact ⟨t', ht', Nat.le_trans hle' hle⟩
    · rcases List.mem_cons.mp hy with rfl | hy
      · obtain ⟨t, ht, hle⟩ := earlier_le_right d due
        obtain ⟨t', ht', hle'⟩ := @ih (earlier due (f y)) t (.inl (hf ▸ ht))
        exact ⟨t', ht', Nat.le_trans hle' hle⟩
      · exact ih (.inr ⟨y, hy, hf⟩)

/-- No thread is due before the world is. -/
theorem World.nextDue_le {j : Nat} {t : Thread α} {d : Nat} (ht : w.threads[j]? = some t)
    (hd : t.nextDue w.now = some d) : ∃ d', w.nextDue = some d' ∧ d' ≤ d :=
  foldl_earlier_le (.inr ⟨t, List.mem_of_getElem? ht, hd⟩)

theorem Thread.lt_nextDue {t : Thread α} {now d : Nat} (h : t.nextDue now = some d) : now < d := by
  cases t with
  | trigger cause begun => cases h
  | finished => cases h
  | pass p =>
    simp only [Thread.nextDue] at h
    split at h
    · rcases earlier_eq_some h with h | h
      · exact lt_of_after_eq_some h
      · exact Work.lt_nextDue h
    · cases h

theorem World.lt_nextDue {d : Nat} (h : w.nextDue = some d) : w.now < d := by
  rcases foldl_earlier h with hnone | ⟨t, -, hdue⟩
  · cases hnone
  · exact Thread.lt_nextDue hdue

theorem World.stepThread_eq_none {j : Nat} {t : Thread α} (h : w.step = none)
    (ht : w.threads[j]? = some t) : t.step w = none := by
  cases hstep : t.step w with
  | none => rfl
  | some next =>
    have hsome := World.stepThread_isSome ht (Option.isSome_iff_exists.mpr ⟨next, hstep⟩)
    have hworld := World.step_isSome hsome
    rw [h] at hworld
    cases hworld

theorem Pass.step_eq_none {p : Pass α} {c : Closing (Work α)} (hcurrent : p.current = some c)
    (h : (Thread.pass p).step w = none) : c.work.step w = none ∧ w.now < c.due := by
  simp only [Thread.step, Pass.step, hcurrent] at h
  split at h
  · cases h
  · cases h
  · case h_3 hwork =>
    split at h
    · cases h
    · case isFalse hnot => exact ⟨hwork, Nat.lt_of_not_le hnot⟩

/-- **A pass that waits is due.** -/
theorem World.Passing.nextDue (hp : w.Passing g n cause start order i) (h : w.step = none)
    (hreport : w.coordinator.report = none) : ∃ d, w.nextDue = some d := by
  cases hp.stand with
  | between done rest horder ht =>
    have hnone := World.stepThread_eq_none h ht
    cases rest <;> cases hnone
  | closing done rest e c horder ht =>
    obtain ⟨-, hlt⟩ := Pass.step_eq_none rfl (World.stepThread_eq_none h ht)
    obtain ⟨d, hd, -⟩ := earlier_le_left c.due (c.work.nextDue w.now)
    rw [← after_of_lt hlt] at hd
    obtain ⟨d', hd', -⟩ := World.nextDue_le ht hd
    exact ⟨d', hd'⟩
  | ended ht hsome =>
    rw [hsome] at hreport
    cases hreport

/-- The clock moves no further than the end of the present close. -/
theorem World.Passing.at (hp : w.Passing g n cause start order i) (h : w.step = none)
    (hreport : w.coordinator.report = none) {t : Nat} (hnow : w.now ≤ t)
    (hdue : ∀ d, w.nextDue = some d → t ≤ d) :
    (w.at t).Passing g n cause start order i := by
  refine ⟨hp.regime, hp.tickets, hp.accepting, hp.issued, hp.others, ?_⟩
  cases hp.stand with
  | between done rest horder ht =>
    have hnone := World.stepThread_eq_none h ht
    cases rest <;> cases hnone
  | closing done rest e c horder ht hc hends hbegun hended hunder =>
    obtain ⟨hwork, hlt⟩ := Pass.step_eq_none rfl (World.stepThread_eq_none h ht)
    have hthread : ∀ d, earlier (after w.now c.due) (c.work.nextDue w.now) = some d → t ≤ d := by
      intro d hd
      obtain ⟨d', hd', hle⟩ := World.nextDue_le ht hd
      exact Nat.le_trans (hdue d' hd') hle
    obtain ⟨hcut, hinner⟩ := le_of_le_earlier hthread
    refine .closing done rest e c horder ht hc ?_ hbegun hended
      ⟨hunder.closeTimeout, hunder.accepting, hunder.report⟩
    rw [← hends, Closing.ends, Closing.ends]
    change Course.cutOff (max t c.due) (c.work.ends g t) = _
    rw [max_due_eq hlt (hcut c.due (after_of_lt hlt)), Work.ends_at hnow hwork hinner]
  | ended ht hsome =>
    rw [hsome] at hreport
    cases hreport

/-! ## The begin of the pass -/

theorem World.trigger_passing (cause : Cause) (hacc : w.coordinator.accepting = true)
    (hreport : w.coordinator.report = none) (hclosings : w.begun w.coordinator.issued = [])
    (htickets : ∀ e ∈ w.coordinator.entries, e.ticket < w.coordinator.issued)
    (hthreads : ∀ t ∈ w.threads, t.causes = []) :
    (w.trigger cause).Passing ⟨w.coordinator.closeTimeout, false⟩ w.coordinator.issued cause w.now
      (closingOrder w.coordinator.entries) w.threads.length := by
  have htrigger : w.trigger cause = { w with
      coordinator := (w.coordinator.drain cause).1
      threads := w.threads ++ [.pass ⟨cause, none, closingOrder w.coordinator.entries, [], []⟩]
      notes := w.notes ++ [(w.now, .trigger cause)] ++ [(w.now, .state .shuttingDown)] } := by
    simp [World.trigger, World.note, Coordinator.drain, hacc, World.spawn]
  have hdrain : (w.coordinator.drain cause).1.accepting = false ∧
      (w.coordinator.drain cause).1.report = none ∧
      (w.coordinator.drain cause).1.closeTimeout = w.coordinator.closeTimeout ∧
      (w.coordinator.drain cause).1.issued = w.coordinator.issued := by
    simp [Coordinator.drain, hacc, hreport]
  obtain ⟨hdown, hnone, htimeout, hissued⟩ := hdrain
  rw [htrigger]
  refine ⟨rfl, fun e he => htickets e ((closingOrder_perm _).mem_iff.mp he), hdown,
    Nat.le_of_eq hissued.symm, fun j t hj ht => ?_, ?_⟩
  · change (w.threads ++ _)[j]? = some t at ht
    by_cases hlt : j < w.threads.length
    · rw [List.getElem?_append_left hlt] at ht
      exact hthreads t (List.mem_of_getElem? ht)
    · have hge : w.threads.length ≤ j := Nat.le_of_not_lt hlt
      rw [List.getElem?_append_right hge, List.getElem?_eq_none (by simp; omega)] at ht
      cases ht
  · refine .between [] (closingOrder w.coordinator.entries) rfl ?_ rfl hclosings
      (List.nil_subset _) ⟨htimeout, hdown, hnone⟩
    simp

/-! ## The end of the pass -/

theorem World.Passing.finished_of_report (hp : w.Passing g n cause start order i) {r : Report}
    (hr : w.coordinator.report = some r) : w.threads[i]? = some .finished := by
  cases hp.stand with
  | between done rest horder ht hnow hbegun hended hunder =>
    rw [hunder.report] at hr
    cases hr
  | closing done rest e c horder ht hc hends hbegun hended hunder =>
    rw [hunder.report] at hr
    cases hr
  | ended ht => exact ht

theorem World.Passing.of_finished (hp : w.Passing g n cause start order i)
    (hfinished : w.threads[i]? = some .finished) :
    w.coordinator.report = some ⟨cause, order.map (·.resource.name),
        order.filterMap (·.resource.failure? g)⟩ ∧
      w.coordinator.state = .stopped ∧ w.now = start + closeTime g order ∧
      (start + closeTime g order, Note.state .stopped) ∈ w.notes ∧
      w.begun n = begins g start order ∧ endings g start order ⊆ w.history := by
  cases hp.stand with
  | between done rest horder ht =>
    rw [hfinished] at ht
    cases ht
  | closing done rest e c horder ht =>
    rw [hfinished] at ht
    cases ht
  | ended ht hreport hstate hnow hstopped hbegun hended =>
    exact ⟨hreport, hstate, hnow, hstopped, hbegun, hended⟩

end EventIntake.Lifecycle
