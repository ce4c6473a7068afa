import EventIntake.Proofs.Lifecycle.Handover
import EventIntake.Proofs.Lifecycle.StateMachine
import EventIntake.Proofs.Lifecycle.Teardown

/-!
# Sessions take turns

A session serves requests one after the other, and all it does to the world is turns.  So what holds
of every interleaving also holds of a session, whatever was asked of it.  A request that never comes
back leaves its hand-overs behind; they stay in the scene.
-/

namespace EventIntake.Lifecycle

variable {α : Type}

def Waiting.refusals : Waiting α → List (Closing Unit)
  | .work job => job.refusals
  | .bootstrap _ b => b.refusals
  | .report _ _ | .thread _ | .untilTime _ | .answered _ => []

theorem Waiting.step_effects {s s' : Session α} {r r' : Waiting α} (h : r.step s = some (s', r')) :
    Effects true (s.world, ↑r.refusals) (s'.world, ↑r'.refusals) := by
  cases Waiting.step_steps h with
  | work hjob => exact Work.step_effects hjob
  | done hjob => exact Work.step_effects hjob
  | refused hjob => exact Work.step_effects hjob
  | told hr due late => exact .single (.tell hr)
  | late hr hdue late => exact .refl
  | joined ht hr => exact .refl
  | woken hdue => exact .refl
  | boot hb single => exact Bootstrap.step_effects hb
  | booted hb single => exact Bootstrap.step_effects hb

namespace Session

variable {s s' : Session α} {r r' : Waiting α}

/-- A session with a request, and with what earlier requests have left behind. -/
def scene (s : Session α) (r : Waiting α) (left : Multiset (Closing Unit)) : Scene α :=
  (s.world, ↑r.refusals + (↑s.world.refusals + left))

theorem turns_of_effects {phases : Bool} {w w' : World α} {P P' : Multiset (Closing Unit)}
    (h : Effects phases (w, P) (w', P')) (left : Multiset (Closing Unit)) :
    Turns (w, P + (↑w.refusals + left)) (w', P' + (↑w'.refusals + left)) := by
  have hframe := (h.frame (↑w.refusals + left)).turns
  have hsame : w'.refusals = w.refusals := h.world_refusals
  rw [hsame]
  exact hframe

theorem step_turns (h : s.step r = some (s', r')) (left : Multiset (Closing Unit)) :
    Turns (s.scene r left) (s'.scene r' left) := by
  unfold Session.step at h
  split at h
  · case h_1 next hnext =>
    cases h
    exact turns_of_effects (Waiting.step_effects hnext) left
  · obtain ⟨world, hworld, hsame⟩ := Option.map_eq_some_iff.mp h
    cases hsame
    obtain ⟨i, -, hi⟩ := List.exists_of_findSome?_eq_some hworld
    have hturns := World.stepThread_turns hi (↑r.refusals + left)
    rw [add_left_comm, add_left_comm (Multiset.ofList world.refusals)] at hturns
    exact hturns

theorem Waiting.lt_nextDue {now t : Nat} (h : r.nextDue now = some t) : now < t := by
  cases r with
  | work job => exact Work.lt_nextDue h
  | report due late => exact lt_of_after_eq_some h
  | thread i => cases h
  | untilTime due => exact lt_of_after_eq_some h
  | bootstrap single b =>
    simp only [Waiting.nextDue, Bootstrap.nextDue] at h
    split at h
    · rcases earlier_eq_some h with h | h
      · exact lt_of_after_eq_some h
      · exact Work.lt_nextDue h
    · cases h
    · cases h
  | answered reply => cases h

/-- **Whatever goes on in a session is turns.** -/
theorem Goes.turns {a b : Session α × Waiting α} (h : Goes a b) (left : Multiset (Closing Unit)) :
    Turns (a.1.scene a.2 left) (b.1.scene b.2 left) := by
  cases h with
  | step h => exact step_turns h left
  | clock hr hstep hdue =>
    refine .single (.clock ?_)
    rcases earlier_eq_some hdue with hdue | hdue
    · exact Nat.le_of_lt (Waiting.lt_nextDue hdue)
    · exact Nat.le_of_lt (World.lt_nextDue hdue)

theorem begin_turns (s : Session α) (r : Request α) (left : Multiset (Closing Unit)) :
    Turns (s.world, ↑s.world.refusals + left) ((s.begin r).1.scene (s.begin r).2 left) := by
  have hsame : ∀ {q : Waiting α}, q.refusals = [] →
      Turns (s.world, ↑s.world.refusals + left) (s.scene q left) := by
    intro q hq
    rw [scene, hq, Multiset.coe_nil, zero_add]
  have heffects : ∀ {s' : Session α} {q : Waiting α}, q.refusals = [] →
      Effects false (s.world, 0) (s'.world, 0) →
      Turns (s.world, ↑s.world.refusals + left) (s'.scene q left) := by
    intro s' q hq h
    have hturns := turns_of_effects h left
    rw [zero_add, zero_add] at hturns
    rw [scene, hq, Multiset.coe_nil, zero_add]
    exact hturns
  cases r with
  | register r => exact hsame rfl
  | trigger cause patience => exact heffects rfl (s.world.trigger_effects cause 0)
  | spawnTrigger cause => exact heffects rfl (.quiet 0 (s.world.quiet_spawn cause) rfl)
  | join i =>
    simp only [Session.begin]
    split
    · exact hsame rfl
    · exact hsame rfl
  | waitStopped limit => exact hsame rfl
  | sleep time => exact hsame rfl
  | becomeRunning => exact heffects rfl (s.world.leaveBootstrap_effects (.inl rfl) 0)
  | becomeFailed => exact heffects rfl (s.world.leaveBootstrap_effects (.inr rfl) 0)
  | subscribe => exact (hsame rfl).tail (.listen _)
  | receive i =>
    simp only [Session.begin]
    split
    · case h_1 coordinator cause hreceive =>
      obtain rfl := congrArg Prod.fst hreceive
      exact (hsame rfl).tail (.listen _)
    · exact hsame rfl
  | phase p =>
    simp only [Session.begin]
    split
    · exact hsame rfl
    · exact hsame rfl
  | run phases =>
    simp only [Session.begin]
    split
    · exact hsame rfl
    · exact hsame rfl
  | isAborted => exact hsame rfl
  | finish =>
    simp only [Session.begin]
    split
    · exact hsame rfl
    · exact heffects rfl (s.world.leaveBootstrap_effects (.inl rfl) 0)

theorem perform_fst (s : Session α) (r : Request α) :
    (s.perform r).1 = (run ((s.begin r).1.fuel (s.begin r).2) (s.begin r).1 (s.begin r).2).1 := by
  unfold perform
  simp only
  split
  · case h_1 s' reply hrun => rw [hrun]
  · case h_2 s' q hrun => rw [hrun]

/-- A request takes turns only, and may leave hand-overs behind. -/
theorem perform_turns {first : Scene α} {left : Multiset (Closing Unit)}
    (h : Turns first (s.world, ↑s.world.refusals + left)) (r : Request α) :
    ∃ left', Turns first ((s.perform r).1.world, ↑(s.perform r).1.world.refusals + left') := by
  have hrun := run_keeps (J := fun s q => Turns first (s.scene q left))
    (fun hgoes ha => ha.trans (hgoes.turns left)) ((s.begin r).1.fuel (s.begin r).2)
    (h.trans (s.begin_turns r left))
  rw [perform_fst]
  generalize run _ _ _ = result at hrun ⊢
  obtain ⟨s', q⟩ := result
  refine ⟨↑q.refusals + left, ?_⟩
  rw [scene, add_left_comm] at hrun
  exact hrun

/-- A request adds to the journal, and counts no outcome. -/
theorem perform_journal (s : Session α) (r : Request α) :
    s.world.journal.Grows (s.perform r).1.world.journal := by
  have hstart : Turns (s.world, ↑s.world.refusals + 0) (s.world, ↑s.world.refusals + 0) := .refl
  obtain ⟨left, h⟩ := perform_turns hstart r
  exact h.journal

theorem serve_turns {first : Scene α} {left : Multiset (Closing Unit)}
    (h : Turns first (s.world, ↑s.world.refusals + left)) (requests : List (Request α)) :
    ∃ left', Turns first
      ((s.serve requests).world, ↑(s.serve requests).world.refusals + left') := by
  induction requests generalizing s left with
  | nil => exact ⟨left, h⟩
  | cons r rest ih =>
    obtain ⟨left', h'⟩ := perform_turns h r
    exact ih h'

/-- **Whatever is asked of a session, nothing is closed twice, and its states are in order.** -/
theorem serve_keeps (closeTimeout : Duration) (requests more : List (Request α)) :
    let s := (start closeTimeout).serve requests
    let s' := (start closeTimeout).serve (requests ++ more)
    s.world.ClosesOnce ∧ s.world.Orderly ∧ s.world.states <+: s'.world.states ∧
      ∀ r, s.world.coordinator.report = some r → s'.world.coordinator.report = some r := by
  intro s s'
  have hstart : Turns (Scene.start closeTimeout) ((start closeTimeout : Session α).world,
      ↑(start closeTimeout : Session α).world.refusals + 0) := by
    rw [add_zero]
    exact .refl
  obtain ⟨left, h⟩ := serve_turns hstart requests
  have hmore : s' = s.serve more := List.foldl_append
  obtain ⟨left', h'⟩ := serve_turns .refl more
  rw [← hmore] at h'
  exact ⟨Turns.closesOnce h, Turns.orderly h, Turns.states_prefix h h',
    fun r => Turns.report_eq h h'⟩

end Session

end EventIntake.Lifecycle
