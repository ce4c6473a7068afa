import EventIntake.Proofs.Lifecycle.Effect

/-!
# Turns of a process

A `Turn` is what one part of a process does to the scene when it is its turn: an effect, or a move
of a thread, of the clock or of those who listen for the cause of the shutdown.  The pass that
closes everything has two moves of its own, `take` and `stop`; whatever else a thread does leaves
the pass where it is.
-/

namespace EventIntake.Lifecycle

variable {α : Type} {phases : Bool}

def Thread.causes : Thread α → List Cause
  | .pass p => [p.cause]
  | .trigger _ _ | .finished => []

def Thread.waiting : Thread α → List (Entry α)
  | .pass p => p.waiting
  | .trigger _ _ | .finished => []

def Thread.refusals : Thread α → List (Closing Unit)
  | .pass p =>
    match p.current with
    | some c => c.work.refusals
    | none => []
  | .trigger _ _ | .finished => []

def World.refusals (w : World α) : List (Closing Unit) := w.threads.flatMap Thread.refusals

inductive Turn : Scene α → Scene α → Prop
  | effect {phases : Bool} {a b : Scene α} (h : Effect phases a b) : Turn a b
  | clock {w : World α} {P} {t : Nat} (h : w.now ≤ t) : Turn (w, P) ({ w with now := t }, P)
  | listen {w : World α} {P} (l : List (Option Cause)) :
      Turn (w, P) ({ w with coordinator := { w.coordinator with subscribers := l } }, P)
  | thread {w : World α} {P} {i : Nat} {t t' : Thread α} (ht : w.threads[i]? = some t)
      (hcauses : t'.causes = t.causes) (hwaiting : t'.waiting = t.waiting) :
      Turn (w, P) ({ w with threads := w.threads.set i t' }, P)
  | take {w : World α} {P} {i : Nat} {p p' : Pass α} {e : Entry α}
      (ht : w.threads[i]? = some (.pass p)) (hwaiting : p.waiting = e :: p'.waiting)
      (hcause : p'.cause = p.cause) :
      Turn (w, P) ({ w with
        history := w.history ++ [(w.now, .closing e.ticket e.resource.name)]
        threads := w.threads.set i (.pass p') }, P)
  | stop {w : World α} {P} {i : Nat} {p : Pass α} (ht : w.threads[i]? = some (.pass p))
      (hwaiting : p.waiting = []) :
      Turn (w, P) ({ w with
        coordinator := { w.coordinator with report := some p.report, state := .stopped }
        notes := w.notes ++ [(w.now, .state .stopped)]
        threads := w.threads.set i .finished }, P)

abbrev Turns : Scene α → Scene α → Prop := Relation.ReflTransGen Turn

theorem Effects.turns {a b : Scene α} (h : Effects phases a b) : Turns a b := by
  induction h with
  | refl => exact .refl
  | tail _ hstep ih => exact ih.tail (.effect hstep)

theorem Turn.journal {a b : Scene α} (h : Turn a b) : a.1.journal.Grows b.1.journal := by
  cases h with
  | effect h => exact h.journal
  | _ => exact .refl _

/-- **Whatever goes on, the journal only grows.** -/
theorem Turns.journal {a b : Scene α} (h : Turns a b) : a.1.journal.Grows b.1.journal := by
  induction h with
  | refl => exact .refl _
  | tail _ hstep ih => exact ih.trans hstep.journal

/-! ## What effects keep -/

/-- Threads are only ever added by an effect, and none that has a hand-over under way. -/
theorem Effect.threads {a b : Scene α} (h : Effect phases a b) :
    ∃ l, b.1.threads = a.1.threads ++ l ∧ ∀ t ∈ l, t.refusals = [] := by
  cases h with
  | quiet h hnotes =>
    obtain ⟨l, hl, hasking⟩ := h.threads
    refine ⟨l, hl, fun t ht => ?_⟩
    have hask := hasking t ht
    cases t with
    | pass p => simp [Thread.isAsking] at hask
    | trigger cause begun => rfl
    | finished => rfl
  | accept r h => exact ⟨[], by simp⟩
  | refuse r h => exact ⟨[], by simp⟩
  | settle c => exact ⟨[], by simp⟩
  | giveUp l => exact ⟨[], by simp⟩
  | shutDown cause h => exact ⟨_, rfl, by simp [Thread.refusals]⟩
  | ask cause h => exact ⟨[], by simp⟩
  | tell h => exact ⟨[], by simp⟩
  | leave hs h => exact ⟨[], by simp⟩

theorem Effects.threads {a b : Scene α} (h : Effects phases a b) :
    ∃ l, b.1.threads = a.1.threads ++ l ∧ ∀ t ∈ l, t.refusals = [] := by
  induction h with
  | refl => exact ⟨[], by simp⟩
  | tail _ hstep ih =>
    obtain ⟨l, hl, hnone⟩ := ih
    obtain ⟨m, hm, hnone'⟩ := hstep.threads
    refine ⟨l ++ m, by rw [hm, hl, List.append_assoc], fun t ht => ?_⟩
    rcases List.mem_append.mp ht with ht | ht
    · exact hnone t ht
    · exact hnone' t ht

theorem Effects.world_refusals {a b : Scene α} (h : Effects phases a b) :
    b.1.refusals = a.1.refusals := by
  obtain ⟨l, hl, hnone⟩ := h.threads
  have hflat : l.flatMap Thread.refusals = [] := List.flatMap_eq_nil_iff.mpr hnone
  rw [World.refusals, hl, List.flatMap_append, hflat, List.append_nil, World.refusals]

theorem Effects.getElem?_threads {a b : Scene α} (h : Effects phases a b) {i : Nat} {t : Thread α}
    (ht : a.1.threads[i]? = some t) : b.1.threads[i]? = some t := by
  obtain ⟨l, hl, -⟩ := h.threads
  rw [hl, List.getElem?_append_left (List.getElem?_eq_some_iff.mp ht).1]
  exact ht

/-! ## Steps of a thread -/

/-- What the elements of a list come to when one of them is replaced. -/
theorem coe_flatMap_set {β γ : Type} (f : β → List γ) {l : List β} {i : Nat} {x : β}
    (hx : l[i]? = some x) (y : β) :
    (↑((l.set i y).flatMap f) + ↑(f x) : Multiset γ) = ↑(l.flatMap f) + ↑(f y) := by
  induction l generalizing i with
  | nil => simp at hx
  | cons z l ih =>
    cases i with
    | zero =>
      simp only [List.getElem?_cons_zero, Option.some.injEq] at hx
      subst hx
      simp only [List.set_cons_zero, List.flatMap_cons, ← Multiset.coe_add]
      rw [add_right_comm, add_comm (Multiset.ofList (f y)), add_right_comm]
    | succ i =>
      have hrest := ih (by simpa using hx)
      simp only [List.set_cons_succ, List.flatMap_cons, ← Multiset.coe_add, add_assoc]
      rw [hrest]

/-- What one step of a thread is: effects that leave the pass where it is, the begin of the next
close, or the end of the pass. -/
inductive Thread.Move (w : World α) : Thread α → World α → Thread α → Prop
  | work {t t' : Thread α} {w' : World α} (h : Effects false (w, ↑t.refusals) (w', ↑t'.refusals))
      (hcauses : t'.causes = t.causes) (hwaiting : t'.waiting = t.waiting) : Move w t w' t'
  | take {p : Pass α} {e : Entry α} {rest : List (Entry α)} (hcurrent : p.current = none)
      (hwaiting : p.waiting = e :: rest) :
      Move w (.pass p) (w.record (.closing e.ticket e.resource.name))
        (.pass { p with
          current := some (w.beginClose e.ticket e.resource).2
          waiting := rest
          attempted := p.attempted ++ [e.resource.name] })
  | stop {p : Pass α} (hcurrent : p.current = none) (hwaiting : p.waiting = []) :
      Move w (.pass p) (w.stop p.report) .finished

theorem Pass.afterClose_move {w w₁ w' : World α} {p : Pass α} {c : Closing (Work α)}
    {result : Option (Except String (Value α))} {t : Thread α}
    (hcurrent : p.current = some c) (hafter : p.afterClose w₁ c result = (w', t))
    (hend : Effects false (w, ↑c.work.refusals) ((w₁.endClose c result).1, 0)) :
    Thread.Move w (.pass p) w' t := by
  have hstart : (Thread.pass p).refusals = c.work.refusals := by simp [Thread.refusals, hcurrent]
  rw [← hstart] at hend
  unfold Pass.afterClose at hafter
  split at hafter
  · case h_1 w₂ u hclose =>
    cases hafter
    rw [hclose] at hend
    exact .work hend rfl rfl
  · case h_2 w₂ e hclose =>
    cases hafter
    rw [hclose] at hend
    exact .work (hend.tail (.quiet (w₂.quiet_journal ((Journal.Grows.log ..).trans
      (.teardownError _))) fun _ => rfl)) rfl rfl

theorem Pass.Steps.move {w w' : World α} {p : Pass α} {t : Thread α} (h : Pass.Steps w p w' t) :
    Thread.Move w (.pass p) w' t := by
  cases h with
  | @work w' c job hcurrent hjob =>
    have hwork : Effects false _ _ := Work.step_effects hjob
    have hstart : (Thread.pass p).refusals = c.work.refusals := by
      simp [Thread.refusals, hcurrent]
    refine .work ?_ rfl rfl
    rw [hstart]
    exact hwork
  | @closed w₁ c result hcurrent hjob =>
    exact Pass.afterClose_move hcurrent rfl
      ((Work.step_effects hjob).trans (w₁.endClose_some_effects c result 0))
  | cutOff hcurrent hjob hdue =>
    exact Pass.afterClose_move hcurrent rfl (w.endClose_none_effects _)
  | take hcurrent hwaiting => exact .take hcurrent hwaiting
  | stop hcurrent hwaiting => exact .stop hcurrent hwaiting

theorem Thread.step_move {w w' : World α} {t t' : Thread α} (h : t.step w = some (w', t')) :
    Thread.Move w t w' t' := by
  cases Thread.step_steps h with
  | ask cause => exact .work (w.trigger_effects cause 0) rfl rfl
  | told hr cause => exact .work (.single (.tell hr)) rfl rfl
  | pass h => exact h.move

theorem Thread.Move.threads {w w' : World α} {t t' : Thread α} (h : Thread.Move w t w' t') :
    ∃ l, w'.threads = w.threads ++ l ∧ ∀ t ∈ l, t.refusals = [] := by
  cases h with
  | work h => exact h.threads
  | take => exact ⟨[], by simp [World.record]⟩
  | stop => exact ⟨[], by simp [World.stop, World.note]⟩

theorem Thread.Move.turns {w w' : World α} {i : Nat} {t t' : Thread α}
    (h : Thread.Move w t w' t') (ht : w.threads[i]? = some t) (F : Multiset (Closing Unit)) :
    Turns (w, ↑t.refusals + F) ({ w' with threads := w'.threads.set i t' }, ↑t'.refusals + F) := by
  cases h with
  | work h hcauses hwaiting =>
    exact (h.frame F).turns.tail (.thread (h.getElem?_threads ht) hcauses hwaiting)
  | @take p e rest hcurrent hwaiting =>
    have hnone : (Thread.pass p).refusals = [] := by simp [Thread.refusals, hcurrent]
    rw [hnone]
    exact .single (.take ht hwaiting rfl)
  | @stop p hcurrent hwaiting =>
    have hnone : (Thread.pass p).refusals = [] := by simp [Thread.refusals, hcurrent]
    rw [hnone]
    exact .single (.stop ht hwaiting)

/-- **A step of a thread is a sequence of turns**, with the hand-overs of all threads counted. -/
theorem World.stepThread_turns {w w' : World α} {i : Nat} (h : w.stepThread i = some w')
    (F : Multiset (Closing Unit)) : Turns (w, ↑w.refusals + F) (w', ↑w'.refusals + F) := by
  obtain ⟨t, w₁, t', ht, hstep, rfl⟩ := World.stepThread_steps h
  have hmove := Thread.step_move hstep
  obtain ⟨l, hl, hnone⟩ := hmove.threads
  have hi : w₁.threads[i]? = some t := by
    rw [hl, List.getElem?_append_left (List.getElem?_eq_some_iff.mp ht).1]
    exact ht
  have hsame : w₁.threads.flatMap Thread.refusals = w.refusals := by
    rw [hl, List.flatMap_append, List.flatMap_eq_nil_iff.mpr hnone, List.append_nil,
      World.refusals]
  -- `others` are the hand-overs of the other threads
  generalize hothers : Multiset.ofList ((w.threads.set i .finished).flatMap Thread.refusals)
    = others
  have hbefore := coe_flatMap_set Thread.refusals ht Thread.finished
  have hafter := coe_flatMap_set Thread.refusals hi t'
  rw [hothers] at hbefore
  rw [hsame] at hafter
  have hw : Multiset.ofList w.refusals = ↑t.refusals + others := by
    rw [add_comm, hbefore]
    exact (add_zero _).symm
  have hw' : Multiset.ofList ((w₁.threads.set i t').flatMap Thread.refusals)
      = ↑t'.refusals + others := by
    rw [hw, add_assoc, add_comm] at hafter
    rw [add_left_cancel hafter, add_comm]
  have hturns := hmove.turns ht (others + F)
  rw [← add_assoc, ← add_assoc, ← hw, ← hw'] at hturns
  exact hturns

/-! ## Steps of a bootstrap -/

def Bootstrap.refusals (b : Bootstrap α) : List (Closing Unit) :=
  match b.stand with
  | .body _ _ _ work => work.refusals
  | .between | .tearingDown _ => []

theorem World.foldl_error_effects (w : World α) (errors : List CloseFailure)
    (fields : CloseFailure → List (String × String)) (message : String) :
    Effects phases (w, 0)
      (errors.foldl (fun w failure => w.error message (fields failure)) w, 0) := by
  induction errors generalizing w with
  | nil => exact .refl
  | cons e rest ih => exact (ih _).head (.quiet (w.quiet_error message (fields e)) fun _ => rfl)

theorem Bootstrap.abort_effects (w : World α) (b : Bootstrap α) (e : BootFailure) :
    Effects phases (w, 0) ((b.abort w e).1, ↑(b.abort w e).2.refusals) :=
  ((Effects.quiet 0 (w.quiet_error _ _) rfl).trans
    (World.leaveBootstrap_effects _ (.inr rfl) 0)).trans (World.trigger_effects _ .fatalBootstrap 0)

def Bootstrap.refusalsAfter : Bootstrap α ⊕ Bootstrap.Result α → List (Closing Unit)
  | .inl b => b.refusals
  | .inr _ => []

/-- **A step of a bootstrap is a sequence of effects.** -/
theorem Bootstrap.step_effects {w w' : World α} {b : Bootstrap α}
    {next : Bootstrap α ⊕ Bootstrap.Result α} (h : b.step w = some (w', next)) :
    Effects true (w, ↑b.refusals) (w', ↑(Bootstrap.refusalsAfter next)) := by
  have hbody : ∀ {name limit due job}, b.stand = .body name limit due job →
      b.refusals = job.refusals := fun hstand => by simp [Bootstrap.refusals, hstand]
  have hbetween : b.stand = .between → b.refusals = [] := fun hstand => by
    simp [Bootstrap.refusals, hstand]
  cases Bootstrap.step_steps h with
  | finish hstand hwaiting =>
    rw [hbetween hstand]
    exact .refl
  | refuse hstand hwaiting haborted =>
    rw [hbetween hstand]
    exact .refl
  | begin hstand hwaiting haborted =>
    rw [hbetween hstand]
    exact .single (.quiet (w.quiet_note rfl) fun h => by cases h)
  | work hstand hjob =>
    rw [hbody hstand]
    exact Work.step_effects hjob
  | @done _ _ _ _ w₁ _ hstand hjob =>
    rw [hbody hstand]
    exact (Work.step_effects hjob).tail (.quiet (w₁.quiet_note rfl) fun h => by cases h)
  | fail hstand hjob =>
    rw [hbody hstand]
    exact (Work.step_effects hjob).trans (Bootstrap.abort_effects _ b _)
  | timeOut hstand hjob hdue =>
    rw [hbody hstand]
    exact (w.giveUp_effects _).trans (Bootstrap.abort_effects _ b _)
  | @tornDown e r hstand hr =>
    have hnone : b.refusals = [] := by simp [Bootstrap.refusals, hstand]
    rw [hnone]
    exact (World.foldl_error_effects _ r.errors _ _).head (.tell hr)

end EventIntake.Lifecycle
