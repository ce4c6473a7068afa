import EventIntake.Proofs.Lifecycle.Ledger
import EventIntake.Proofs.Lifecycle.Process
import Mathlib.Data.List.Chain

/-!
# The states of a process and its report

A turn either leaves the state as it is or makes one move of `State.Next` and notes it, and the one
turn that writes the report is the one that stops the process (`Turn.advances`).  So the states that
were noted form a chain that ends in the present one, and whoever waited for the end of the shutdown
was handed the one report there is.
-/

namespace EventIntake.Lifecycle

variable {α : Type} {phases : Bool}

namespace Note

def state? : Note → Option State
  | state s => some s
  | _ => none

def returned? : Note → Option Report
  | returned r => some r
  | _ => none

end Note

def World.states (w : World α) : List State := .bootstrapping :: Note.pick Note.state? w.notes

def World.returned (w : World α) : List Report := Note.pick Note.returned? w.notes

/-- From `w` to `w'` there is at most one move of the state, and no report is taken back. -/
structure World.Advances (w w' : World α) (l : List (Nat × Note)) : Prop where
  notes : w'.notes = w.notes ++ l
  state : Note.pick Note.state? l = [] ∧ w'.coordinator.state = w.coordinator.state ∨
    ∃ s, w.coordinator.state.Next s ∧ Note.pick Note.state? l = [s] ∧ w'.coordinator.state = s
  report : ∀ r, w.coordinator.report = some r → w'.coordinator.report = some r
  returned : ∀ r ∈ Note.pick Note.returned? l, w'.coordinator.report = some r

theorem World.Advances.of_same {w w' : World α} {l : List (Nat × Note)}
    (hnotes : w'.notes = w.notes ++ l) (hstates : Note.pick Note.state? l = [])
    (hreturned : Note.pick Note.returned? l = [])
    (hstate : w'.coordinator.state = w.coordinator.state)
    (hreport : w'.coordinator.report = w.coordinator.report) : w.Advances w' l := by
  refine ⟨hnotes, .inl ⟨hstates, hstate⟩, fun r hr => hreport.trans hr, fun r hr => ?_⟩
  rw [hreturned] at hr
  cases hr

theorem Effect.advances {a b : Scene α} (h : Effect phases a b) (hs : a.1.Standing) :
    ∃ l, a.1.Advances b.1 l := by
  cases h with
  | @quiet w w' P h hnotes =>
    obtain ⟨l, hl, hphase⟩ := h.notes
    have hnone : ∀ n ∈ l, n.2.isPhase := fun n hn => (hphase n hn).2
    refine ⟨l, .of_same hl (Note.pick_isPhase (fun n hn => ?_) hnone)
      (Note.pick_isPhase (fun n hn => ?_) hnone) (by rw [h.coordinator]) (by rw [h.coordinator])⟩
    · cases n <;> first | rfl | cases hn
    · cases n <;> first | rfl | cases hn
  | accept r h => exact ⟨_, .of_same rfl rfl rfl rfl rfl⟩
  | refuse r h => exact ⟨_, .of_same rfl rfl rfl rfl rfl⟩
  | settle c => exact ⟨_, .of_same rfl rfl rfl rfl rfl⟩
  | giveUp l =>
    refine ⟨_, .of_same rfl ?_ ?_ rfl rfl⟩
    · simp [Note.pick, Note.state?]
    · simp [Note.pick, Note.returned?]
  | @shutDown w P cause hacc =>
    have hw : w.Standing := hs
    cases hw with
    | awaited _ hreport hstate =>
      refine ⟨_, rfl, .inr ⟨_, .shutDown hstate, rfl, rfl⟩, fun r hr => ?_, fun r hr => by cases hr⟩
      exact hr
    | underWay hnot => simp [hnot] at hacc
    | ended hnot => simp [hnot] at hacc
  | ask cause h => exact ⟨_, .of_same rfl rfl rfl rfl rfl⟩
  | @tell w P r h =>
    refine ⟨_, rfl, .inl ⟨rfl, rfl⟩, fun r' hr' => hr', fun r' hr' => ?_⟩
    have hsame : r' = r := List.mem_singleton.mp hr'
    rw [hsame]
    exact h
  | @leave w P s hstates h =>
    refine ⟨_, rfl, .inr ⟨s, ?_, rfl, rfl⟩, fun r' hr' => hr', fun r' hr' => by cases hr'⟩
    rw [show ((w, P) : Scene α).1.coordinator.state = .bootstrapping from h]
    rcases hstates with rfl | rfl
    · exact .run
    · exact .fail

theorem Turn.advances {a b : Scene α} (h : Turn a b) (hs : a.1.Standing) :
    ∃ l, a.1.Advances b.1 l := by
  cases h with
  | effect h => exact h.advances hs
  | clock h => exact ⟨[], .of_same (List.append_nil _).symm rfl rfl rfl rfl⟩
  | listen l => exact ⟨[], .of_same (List.append_nil _).symm rfl rfl rfl rfl⟩
  | thread ht hcauses hwaiting => exact ⟨[], .of_same (List.append_nil _).symm rfl rfl rfl rfl⟩
  | take ht hwaiting hcause => exact ⟨[], .of_same (List.append_nil _).symm rfl rfl rfl rfl⟩
  | @stop w P i p ht hwaiting =>
    have hw : w.Standing := hs
    have hmem := mem_causes_of_pass ht
    cases hw with
    | awaited _ _ _ hcauses => simp [hcauses] at hmem
    | underWay _ hreport hstate =>
      refine ⟨_, rfl, .inr ⟨.stopped, ?_, rfl, rfl⟩, fun r hr => ?_, fun r hr => by cases hr⟩
      · rw [show ((w, P) : Scene α).1.coordinator.state = .shuttingDown from hstate]
        exact .stop
      · rw [show ((w, P) : Scene α).1.coordinator.report = none from hreport] at hr
        cases hr
    | ended _ _ _ _ hcauses => simp [hcauses] at hmem

theorem World.Advances.states_eq {w w' : World α} {l : List (Nat × Note)} (h : w.Advances w' l) :
    w'.states = w.states ++ Note.pick Note.state? l := by
  rw [World.states, h.notes, Note.pick_append, World.states, List.cons_append]

theorem World.Advances.returned_eq {w w' : World α} {l : List (Nat × Note)}
    (h : w.Advances w' l) : w'.returned = w.returned ++ Note.pick Note.returned? l := by
  rw [World.returned, h.notes, Note.pick_append, World.returned]

/-- The states form a chain up to the present one, and whoever waited was handed the report. -/
structure World.Charted (w : World α) : Prop where
  chain : w.states.IsChain State.Next
  current : w.states.getLast? = some w.coordinator.state
  returned : ∀ r ∈ w.returned, w.coordinator.report = some r

theorem World.Charted.advance {w w' : World α} {l : List (Nat × Note)} (h : w.Advances w' l)
    (hw : w.Charted) : w'.Charted := by
  have hstates := h.states_eq
  constructor
  · rcases h.state with ⟨hnone, hstate⟩ | ⟨s, hnext, hone, hstate⟩
    · rw [hstates, hnone, List.append_nil]
      exact hw.chain
    · rw [hstates, hone]
      refine List.isChain_append.mpr ⟨hw.chain, List.isChain_singleton s, fun x hx y hy => ?_⟩
      rw [hw.current, Option.mem_some_iff] at hx
      rw [List.head?_cons, Option.mem_some_iff] at hy
      rw [← hx, ← hy]
      exact hnext
  · rcases h.state with ⟨hnone, hstate⟩ | ⟨s, hnext, hone, hstate⟩
    · rw [hstates, hnone, List.append_nil, hw.current, hstate]
    · rw [hstates, hone, List.getLast?_append, List.getLast?_singleton, Option.some_or, hstate]
  · intro r hr
    rw [h.returned_eq] at hr
    rcases List.mem_append.mp hr with hr | hr
    · exact h.report r (hw.returned r hr)
    · exact h.returned r hr

/-! ## Runs -/

section Turns

variable {closeTimeout : Duration} {a b : Scene α}

theorem Turns.charted (h : Turns (Scene.start closeTimeout) a) : a.1.Charted := by
  induction h with
  | refl =>
    refine ⟨List.isChain_singleton _, rfl, fun r hr => ?_⟩
    cases hr
  | tail hturns hturn ih =>
    obtain ⟨l, hl⟩ := hturn.advances (Turns.standing hturns)
    exact ih.advance hl

theorem Turns.states_prefix (ha : Turns (Scene.start closeTimeout) a) (h : Turns a b) :
    a.1.states <+: b.1.states := by
  induction h with
  | refl => exact List.prefix_rfl
  | tail hturns hturn ih =>
    obtain ⟨l, hl⟩ := hturn.advances (Turns.standing (ha.trans hturns))
    rw [hl.states_eq]
    exact ih.trans (List.prefix_append _ _)

theorem Turns.report_eq (ha : Turns (Scene.start closeTimeout) a) (h : Turns a b) {r : Report}
    (hr : a.1.coordinator.report = some r) : b.1.coordinator.report = some r := by
  induction h with
  | refl => exact hr
  | tail hturns hturn ih =>
    obtain ⟨l, hl⟩ := hturn.advances (Turns.standing (ha.trans hturns))
    exact hl.report r ih

end Turns

theorem World.Standing.report_isSome_iff {w : World α} (h : w.Standing) :
    w.coordinator.report.isSome ↔ w.coordinator.state = .stopped := by
  cases h with
  | awaited _ hreport hstate =>
    rw [hreport]
    rcases hstate with hstate | hstate | hstate <;> simp [hstate]
  | underWay _ hreport hstate => simp [hreport, hstate]
  | ended _ hreport hstate => simp [hreport, hstate]

theorem World.Standing.head?_triggers {w : World α} (h : w.Standing) {r : Report}
    (hr : w.coordinator.report = some r) : w.triggers.head? = some r.cause := by
  cases h with
  | awaited _ hreport => simp [hreport] at hr
  | underWay _ hreport => simp [hreport] at hr
  | ended _ hreport _ _ _ htriggers =>
    rw [hreport, Option.some.injEq] at hr
    rw [htriggers, hr]

theorem State.pairwise_rank {l : List State} (h : l.IsChain State.Next) :
    l.Pairwise fun s t => s.rank < t.rank := by
  have : IsTrans State fun s t => s.rank < t.rank := ⟨fun _ _ _ => Nat.lt_trans⟩
  exact (h.imp fun _ _ => State.Next.rank_lt).pairwise

theorem State.eq_bootstrapping_of_rank_lt {s : State} (h : s.rank < State.running.rank) :
    s = .bootstrapping := by
  cases s with
  | bootstrapping => rfl
  | running => exact absurd h (by decide)
  | failedStartup => exact absurd h (by decide)
  | shuttingDown => exact absurd h (by decide)
  | stopped => exact absurd h (by decide)

/-- What holds of the state and the report of a world, whatever turns have led to it. -/
structure World.Orderly (w : World α) : Prop where
  chain : w.states.IsChain State.Next
  current : w.states.getLast? = some w.coordinator.state
  once : w.states.Nodup
  /-- The process runs only straight after the bootstrap. -/
  running : w.states.Pairwise fun s t => t = .running → s = .bootstrapping
  report : w.coordinator.report.isSome ↔ w.coordinator.state = .stopped
  /-- Whoever waited for the end of the shutdown was handed the one report. -/
  returned : ∀ r ∈ w.returned, w.coordinator.report = some r
  cause : ∀ r, w.coordinator.report = some r → w.triggers.head? = some r.cause

theorem Turns.orderly {closeTimeout : Duration} {a : Scene α}
    (h : Turns (Scene.start closeTimeout) a) : a.1.Orderly := by
  have hs : a.1.Standing := Turns.standing h
  have hc : a.1.Charted := Turns.charted h
  have hrank := State.pairwise_rank hc.chain
  refine ⟨hc.chain, hc.current, ?_, ?_, hs.report_isSome_iff, hc.returned,
    fun r => hs.head?_triggers⟩
  · refine hrank.imp fun {s t} hlt heq => ?_
    rw [heq] at hlt
    exact Nat.lt_irrefl _ hlt
  · refine hrank.imp fun {s t} hlt hrunning => ?_
    rw [hrunning] at hlt
    exact State.eq_bootstrapping_of_rank_lt hlt

namespace Process

/-- **The state moves along `State.Next` only, and there is one report.** -/
theorem run_orderly (closeTimeout : Duration) (choices more : List (Choice α)) :
    let p := run closeTimeout choices
    let q := run closeTimeout (choices ++ more)
    p.world.Orderly ∧ q.world.Orderly ∧ p.world.states <+: q.world.states ∧
      ∀ r, p.world.coordinator.report = some r → q.world.coordinator.report = some r := by
  intro p q
  have hp : Turns (Scene.start closeTimeout) p.scene := run_turns closeTimeout choices
  have hpq : Turns p.scene q.scene := run_append_turns closeTimeout choices more
  exact ⟨Turns.orderly hp, Turns.orderly (hp.trans hpq), Turns.states_prefix hp hpq,
    fun r => Turns.report_eq hp hpq⟩

end Process

end EventIntake.Lifecycle
