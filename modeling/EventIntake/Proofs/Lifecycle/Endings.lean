import EventIntake.Proofs.Lifecycle.Ledger
import EventIntake.Proofs.Lifecycle.Process

/-!
# How closes end

The close of a resource ends well, with an error, or by being cut off.  `World.Settles` says what a
part of a run has added to the books: the hand-overs that came back refused, each after the close of
its resource had ended in some way, and the closes of the pass that have ended.  Only the latter are
counted where they fail; of the former there is a warning (`World.endRefusal_settles`,
`Pass.afterClose_settles`).  `World.Settles.trans` puts parts together, so that every step of every
part of a process is accounted for.
-/

namespace EventIntake.Lifecycle

variable {α : Type}

inductive Ending where
  | closed
  | failed
  | cutOff
  deriving DecidableEq, Repr

def Ending.ofResult : Option (Except String (Value α)) → Ending
  | some (.ok _) => .closed
  | some (.error _) => .failed
  | none => .cutOff

def ticketsOf (ending : Ending) (ends : List (Nat × Ending)) : List Nat :=
  (ends.filter fun e => e.2 = ending).map Prod.fst

def failureCount (ends : List (Nat × Ending)) : Nat := ends.countP fun e => e.2 ≠ .closed

@[simp] theorem mem_ticketsOf {ending : Ending} {ends : List (Nat × Ending)} {ticket : Nat} :
    ticket ∈ ticketsOf ending ends ↔ (ticket, ending) ∈ ends := by
  simp [ticketsOf]

@[simp] theorem ticketsOf_append (ending : Ending) (ends ends' : List (Nat × Ending)) :
    ticketsOf ending (ends ++ ends') = ticketsOf ending ends ++ ticketsOf ending ends' := by
  simp [ticketsOf]

@[simp] theorem failureCount_append (ends ends' : List (Nat × Ending)) :
    failureCount (ends ++ ends') = failureCount ends + failureCount ends' := List.countP_append

def Event.closed? : Event → Option Nat
  | .closed ticket _ => some ticket
  | _ => none

def Event.closeFailed? : Event → Option Nat
  | .closeFailed ticket _ => some ticket
  | _ => none

/-- Whether a line warns of a resource that was handed over too late and did not close. -/
def isLateFailure (line : LogLine) : Bool := line.message == "Late resource failed to close"

namespace World

def closedWell (w : World α) : List Nat := w.history.filterMap fun e => e.2.closed?

def closeFailed (w : World α) : List Nat := w.history.filterMap fun e => e.2.closeFailed?

def lateWarnings (w : World α) : Nat := w.journal.lines.countP isLateFailure

def teardownErrors (w : World α) : Nat := w.journal.metrics.teardownErrors

/-- What has been added to the books on the way from `w` to `w'`: `late` are the refused hand-overs
that came back and `own` the closes of the pass that ended, each with how it did.  A close that was
cut off was `due`. -/
structure Settles (due : Nat → Prop) (w w' : World α) (late own : List (Nat × Ending)) : Prop where
  closed : (↑w'.closedWell : Multiset Nat) = ↑w.closedWell + ↑(ticketsOf .closed (late ++ own))
  failed : (↑w'.closeFailed : Multiset Nat) = ↑w.closeFailed + ↑(ticketsOf .failed (late ++ own))
  refused : w'.refused = w.refused ++ late.map Prod.fst
  warned : w'.lateWarnings = w.lateWarnings + failureCount late
  counted : w'.teardownErrors = w.teardownErrors + failureCount own
  cutOff : ∀ ticket, (ticket, Ending.cutOff) ∈ late ++ own → due ticket

variable {due : Nat → Prop} {w w' w'' : World α} {late late' own own' : List (Nat × Ending)}

namespace Settles

theorem trans (h : Settles due w w' late own) (h' : Settles due w' w'' late' own') :
    Settles due w w'' (late ++ late') (own ++ own') := by
  constructor
  · rw [h'.closed, h.closed]
    simp only [ticketsOf_append, ← Multiset.coe_add]
    abel
  · rw [h'.failed, h.failed]
    simp only [ticketsOf_append, ← Multiset.coe_add]
    abel
  · rw [h'.refused, h.refused, List.map_append, List.append_assoc]
  · rw [h'.warned, h.warned, failureCount_append, Nat.add_assoc]
  · rw [h'.counted, h.counted, failureCount_append, Nat.add_assoc]
  · intro ticket hmem
    simp only [List.mem_append] at hmem
    rcases hmem with (hmem | hmem) | (hmem | hmem)
    · exact h.cutOff ticket (List.mem_append_left own hmem)
    · exact h'.cutOff ticket (List.mem_append_left own' hmem)
    · exact h.cutOff ticket (List.mem_append_right late hmem)
    · exact h'.cutOff ticket (List.mem_append_right late' hmem)

theorem mono {due' : Nat → Prop} (h : Settles due w w' late own)
    (hdue : ∀ ticket, due ticket → due' ticket) : Settles due' w w' late own :=
  ⟨h.closed, h.failed, h.refused, h.warned, h.counted, fun ticket hmem =>
    hdue ticket (h.cutOff ticket hmem)⟩

theorem of_same (hclosed : w'.closedWell = w.closedWell) (hfailed : w'.closeFailed = w.closeFailed)
    (hrefused : w'.refused = w.refused) (hwarned : w'.lateWarnings = w.lateWarnings)
    (hcounted : w'.teardownErrors = w.teardownErrors) : Settles due w w' [] [] := by
  constructor
  · simp [hclosed, ticketsOf]
  · simp [hfailed, ticketsOf]
  · simp [hrefused]
  · simp [hwarned, failureCount]
  · simp [hcounted, failureCount]
  · simp

theorem refl (w : World α) : Settles due w w [] [] := .of_same rfl rfl rfl rfl rfl

end Settles

/-! ## Operations that settle nothing -/

theorem record_settles (w : World α) {e : Event} (hclosed : e.closed? = none)
    (hfailed : e.closeFailed? = none) : Settles due w (w.record e) [] [] :=
  .of_same (by simp [closedWell, record, hclosed]) (by simp [closeFailed, record, hfailed])
    rfl rfl rfl

theorem note_settles (w : World α) {n : Note} (hrefused : n.refused? = none) :
    Settles due w (w.note n) [] [] :=
  .of_same rfl rfl (by simp [refused, Note.pick, note, hrefused]) rfl rfl

theorem log_settles (w : World α) {line : LogLine} (hline : isLateFailure line = false) :
    Settles due w { w with journal := w.journal.log line } [] [] :=
  .of_same rfl rfl rfl (by simp [lateWarnings, hline]) rfl

theorem giveUp_settles (w : World α) (l : List (Closing Unit)) :
    Settles due w (w.giveUp l) [] [] := by
  refine .of_same rfl rfl ?_ rfl rfl
  have hnone : (l.map fun c => (w.now, Note.dropped c.ticket)).filterMap
      (fun n => n.2.refused?) = [] := by simp [Note.refused?]
  rw [refused, Note.pick, giveUp, List.filterMap_append, hnone, List.append_nil]
  rfl

theorem coordinator_settles (w : World α) (c : Coordinator α) :
    Settles due w { w with coordinator := c } [] [] := .of_same rfl rfl rfl rfl rfl

theorem spawn_settles (w : World α) (t : Thread α) : Settles due w (w.spawn t) [] [] :=
  .of_same rfl rfl rfl rfl rfl

theorem register_settles (w : World α) (r : Resource (Action α)) :
    Settles due w (w.register r).1 [] [] := by
  cases hacc : w.coordinator.accepting with
  | true =>
    simp only [register, Coordinator.offer, hacc, if_true]
    exact ((w.coordinator_settles _).trans (note_settles _ rfl)).trans (note_settles _ rfl)
  | false =>
    simp only [register, Coordinator.offer, hacc, Bool.false_eq_true, if_false, beginClose]
    exact (((w.coordinator_settles _).trans (note_settles _ rfl)).trans
      (log_settles _ (by simp [isLateFailure]))).trans (record_settles _ rfl rfl)

theorem trigger_settles (w : World α) (cause : Cause) :
    Settles due w (w.trigger cause) [] [] := by
  have hnote : Settles due w (w.note (.trigger cause)) [] [] := note_settles w rfl
  simp only [trigger]
  split
  · exact ((hnote.trans (coordinator_settles _ _)).trans (note_settles _ rfl)).trans
      (spawn_settles _ _)
  · exact hnote

theorem leaveBootstrap_settles (w : World α) (s : State) :
    Settles due w (w.leaveBootstrap s).1 [] [] := by
  unfold leaveBootstrap
  split
  · exact (w.coordinator_settles _).trans (note_settles _ rfl)
  · exact .refl w

/-! ## The end of a close -/

theorem endClose_tells (w : World α) (c : Closing (Work α))
    (result : Option (Except String (Value α))) :
    (w.endClose c result).1.closedWell =
        w.closedWell ++ ticketsOf .closed [(c.ticket, .ofResult result)] ∧
      (w.endClose c result).1.closeFailed =
        w.closeFailed ++ ticketsOf .failed [(c.ticket, .ofResult result)] ∧
      (w.endClose c result).1.refused = w.refused ∧
      (w.endClose c result).1.journal = w.journal := by
  match result with
  | some (.ok v) =>
    simp [endClose, closedWell, closeFailed, refused, record, ticketsOf, Ending.ofResult,
      Event.closed?, Event.closeFailed?]
  | some (.error reason) =>
    simp [endClose, closedWell, closeFailed, refused, record, ticketsOf, Ending.ofResult,
      Event.closed?, Event.closeFailed?]
  | none =>
    simp [endClose, closedWell, closeFailed, refused, giveUp, ticketsOf, Ending.ofResult, Note.pick,
      Note.refused?]

theorem endClose_cases (w : World α) (c : Closing (Work α))
    (result : Option (Except String (Value α))) :
    (∃ w' u, w.endClose c result = (w', .ok u) ∧ failureCount [(c.ticket, .ofResult result)] = 0) ∨
      ∃ w' e, w.endClose c result = (w', .error e) ∧
        failureCount [(c.ticket, .ofResult result)] = 1 := by
  match result with
  | some (.ok v) => exact .inl ⟨_, _, rfl, rfl⟩
  | some (.error reason) => exact .inr ⟨_, _, rfl, rfl⟩
  | none => exact .inr ⟨_, _, rfl, rfl⟩

/-- The end of one close is settled where it is told as it was, and counted or warned of once when
it did not go well. -/
theorem Settles.of_endClose {c : Closing (Work α)} {result : Option (Except String (Value α))}
    (hends : late ++ own = [(c.ticket, .ofResult result)])
    (hhistory : w'.history = (w.endClose c result).1.history)
    (hrefused : w'.refused = w.refused ++ late.map Prod.fst)
    (hwarned : w'.lateWarnings = w.lateWarnings + failureCount late)
    (hcounted : w'.teardownErrors = w.teardownErrors + failureCount own)
    (hdue : result = none → due c.ticket) : Settles due w w' late own := by
  obtain ⟨hclosed, hfailed, -, -⟩ := w.endClose_tells c result
  refine ⟨?_, ?_, hrefused, hwarned, hcounted, fun ticket hmem => ?_⟩
  · rw [hends, Multiset.coe_add, ← hclosed, closedWell, hhistory, closedWell]
  · rw [hends, Multiset.coe_add, ← hfailed, closeFailed, hhistory, closeFailed]
  · rw [hends, List.mem_singleton, Prod.mk.injEq] at hmem
    obtain ⟨rfl, hending⟩ := hmem
    match result with
    | some (.ok v) => cases hending
    | some (.error reason) => cases hending
    | none => exact hdue rfl

/-- **A hand-over that was refused comes back**: where the close of its resource was a failure there
is a warning, and nothing is counted. -/
theorem endRefusal_settles (w : World α) (c : Closing (Work α))
    (result : Option (Except String (Value α))) (hdue : result = none → due c.ticket) :
    Settles due w (w.endRefusal c result) [(c.ticket, .ofResult result)] [] := by
  obtain ⟨-, -, hrefused, hjournal⟩ := w.endClose_tells c result
  unfold endRefusal
  rcases w.endClose_cases c result with ⟨w', u, hend, hcount⟩ | ⟨w', e, hend, hcount⟩
  · simp only [hend] at hrefused hjournal ⊢
    refine .of_endClose rfl (by rw [hend]; rfl) ?_ ?_ ?_ hdue
    · rw [← hrefused]
      exact Note.pick_append Note.refused? w'.notes _
    · rw [hcount, lateWarnings, lateWarnings, ← hjournal]
      rfl
    · rw [teardownErrors, teardownErrors, ← hjournal]
      rfl
  · simp only [hend] at hrefused hjournal ⊢
    refine .of_endClose rfl (by rw [hend]; rfl) ?_ ?_ ?_ hdue
    · rw [← hrefused]
      exact Note.pick_append Note.refused? w'.notes _
    · rw [hcount, lateWarnings, lateWarnings, ← hjournal]
      simp [note, warn, Journal.warn, isLateFailure]
    · rw [teardownErrors, teardownErrors, ← hjournal]
      rfl

end World

/-- **A close of the pass ends**: where it is a failure it is counted. -/
theorem Pass.afterClose_settles {due : Nat → Prop} (w : World α) (p : Pass α)
    (c : Closing (Work α)) (result : Option (Except String (Value α)))
    (hdue : result = none → due c.ticket) :
    World.Settles due w (p.afterClose w c result).1 [] [(c.ticket, .ofResult result)] := by
  obtain ⟨-, -, hrefused, hjournal⟩ := w.endClose_tells c result
  unfold Pass.afterClose
  rcases w.endClose_cases c result with ⟨w', u, hend, hcount⟩ | ⟨w', e, hend, hcount⟩
  · simp only [hend] at hrefused hjournal ⊢
    refine .of_endClose rfl (by rw [hend]) ?_ ?_ ?_ hdue
    · rw [← hrefused, List.map_nil, List.append_nil]
    · rw [World.lateWarnings, World.lateWarnings, hjournal]
      rfl
    · rw [hcount, World.teardownErrors, World.teardownErrors, hjournal]
      rfl
  · simp only [hend] at hrefused hjournal ⊢
    refine .of_endClose rfl (by rw [hend]; rfl) ?_ ?_ ?_ hdue
    · rw [← hrefused, List.map_nil, List.append_nil]
      rfl
    · rw [World.lateWarnings, World.lateWarnings, ← hjournal]
      simp [World.count, World.warn, Journal.warn, isLateFailure, failureCount]
    · rw [hcount, World.teardownErrors, World.teardownErrors, ← hjournal]
      rfl

/-! ## Steps of work -/

/-- The close behind one of the hand-overs is that of the ticket, and its time is over. -/
def World.IsDue (w : World α) (l : List (Closing Unit)) (ticket : Nat) : Prop :=
  ∃ c ∈ l, c.ticket = ticket ∧ c.due ≤ w.now

theorem World.IsDue.mono {w : World α} {l l' : List (Closing Unit)} (h : l ⊆ l') (ticket : Nat)
    (hdue : w.IsDue l ticket) : w.IsDue l' ticket := by
  obtain ⟨c, hc, hticket⟩ := hdue
  exact ⟨c, h hc, hticket⟩

/-- What a part of a process does when none but refused hand-overs are closed by it, of which those
of `l` are under way. -/
def World.SettlesLate (l : List (Closing Unit)) (w w' : World α) : Prop :=
  ∃ late, World.Settles (w.IsDue l) w w' late []

namespace World.SettlesLate

variable {w w' w'' : World α} {l l' : List (Closing Unit)}

theorem mono (h : SettlesLate l w w') (hl : l ⊆ l') : SettlesLate l' w w' := by
  obtain ⟨late, hsettles⟩ := h
  exact ⟨late, hsettles.mono (IsDue.mono hl)⟩

end World.SettlesLate

theorem Action.begin_settles {due : Nat → Prop} (w : World α) (value : Value α)
    (rest : List (Action α)) (a : Action α) :
    World.Settles due w (a.begin w value rest).1 [] [] := by
  cases a with
  | log text => exact w.record_settles rfl rfl
  | state => exact w.record_settles rfl rfl
  | registered => exact w.record_settles rfl rfl
  | sleep time => exact .refl w
  | fail message => exact .refl w
  | hang => exact .refl w
  | value v => exact .refl w
  | register r =>
    have hregister : World.Settles due _ _ _ _ := w.register_settles r
    simp only [Action.begin]
    split
    · case h_1 w₁ hr => rwa [hr] at hregister
    · case h_2 w₁ c hr => rwa [hr] at hregister
  | tryRegister r =>
    have hregister : World.Settles due _ _ _ _ := w.register_settles r
    simp only [Action.begin]
    split
    · case h_1 w₁ hr =>
      rw [hr] at hregister
      exact hregister.trans (w₁.record_settles rfl rfl)
    · case h_2 w₁ c hr => rwa [hr] at hregister
  | trigger cause => exact w.trigger_settles cause
  | spawnTrigger cause => exact w.spawn_settles _
  | deploy deadline workers => exact .refl w

theorem Worker.enroll_settles {due : Nat → Prop} (w : World α) (r : Resource (Action α)) :
    World.Settles due w (Worker.enroll w r).1 [] [] := by
  have hregister : World.Settles due _ _ _ _ := w.register_settles r
  unfold Worker.enroll
  split
  · case h_1 w₁ hr => rwa [hr] at hregister
  · case h_2 w₁ c hr => rwa [hr] at hregister

theorem Work.afterRefusal_settles {due : Nat → Prop} (w : World α) (tolerated : Bool)
    (c : Closing (Work α)) (result : Option (Except String (Value α))) (value : Value α)
    (rest : List (Action α)) (hdue : result = none → due c.ticket) :
    World.Settles due w (Work.afterRefusal w tolerated c result value rest).1
      [(c.ticket, .ofResult result)] [] := by
  have hend := w.endRefusal_settles c result hdue
  cases tolerated with
  | true => exact hend.trans (World.record_settles _ rfl rfl)
  | false => exact hend

theorem Work.afterDeployment_settles {due : Nat → Prop} {w w' : World α} {deadline : Duration}
    {expiry : Nat} {workers : List (Worker α)} {rest : List (Action α)} {next : Stepped α}
    (h : Work.afterDeployment w deadline expiry workers rest = some (w', next)) :
    World.Settles due w w' [] [] := by
  unfold Work.afterDeployment at h
  split at h
  · split at h <;>
    · cases h
      exact .refl w
  · split at h
    · cases h
      exact w.giveUp_settles (workersRefusals workers)
    · cases h

mutual

theorem Work.Steps.settles {w w' : World α} {job : Work α} {next : Stepped α}
    (h : Work.Steps w job w' next) : World.SettlesLate job.refusals w w' := by
  cases h with
  | finish value => exact ⟨[], .refl w⟩
  | begin a value rest => exact ⟨[], a.begin_settles w value rest⟩
  | wake h value rest => exact ⟨[], .refl w⟩
  | told hr value rest => exact ⟨[], (w.note_settles rfl).trans (World.record_settles _ rfl rfl)⟩
  | close h tolerated ticket name stage due value rest =>
    exact (Work.Steps.settles h).mono (List.subset_cons_self _ _)
  | @closed w₁ job result h tolerated ticket name stage due value rest =>
    obtain ⟨late, hclose⟩ := (Work.Steps.settles h).mono (List.subset_cons_self _ _)
    exact ⟨_, hclose.trans
      (Work.afterRefusal_settles w₁ tolerated _ (some result) value rest nofun)⟩
  | @cutOff job due h hdue tolerated ticket name stage value rest =>
    exact ⟨_, Work.afterRefusal_settles w tolerated _ none value rest fun _ =>
      ⟨_, List.mem_cons_self, rfl, hdue⟩⟩
  | deploy h deadline due value rest => exact WorkersSteps.settles h
  | deployed hworkers h value => exact ⟨[], Work.afterDeployment_settles h⟩

theorem Worker.Steps.settles {w w' : World α} {worker next : Worker α}
    (h : Worker.Steps w worker w' next) : World.SettlesLate worker.refusals w w' := by
  cases h with
  | create number start r => exact ⟨[], w.record_settles rfl rfl⟩
  | start h number r => exact Work.Steps.settles h
  | up h number r =>
    obtain ⟨late, hstart⟩ := Work.Steps.settles h
    exact ⟨_, hstart.trans (Worker.enroll_settles _ r)⟩
  | fail h number r => exact Work.Steps.settles h
  | close h ticket name stage due =>
    exact (Work.Steps.settles h).mono (List.subset_cons_self _ _)
  | @closed w₁ job result h ticket name stage due =>
    obtain ⟨late, hclose⟩ := (Work.Steps.settles h).mono (List.subset_cons_self _ _)
    exact ⟨_, hclose.trans (w₁.endRefusal_settles _ (some result) nofun)⟩
  | cutOff h hdue ticket name stage =>
    exact ⟨_, w.endRefusal_settles _ none fun _ => ⟨_, List.mem_cons_self, rfl, hdue⟩⟩

theorem WorkersSteps.settles {w w' : World α} {workers next : List (Worker α)}
    (h : WorkersSteps w workers w' next) :
    World.SettlesLate (workersRefusals workers) w w' := by
  cases h with
  | here h rest => exact (Worker.Steps.settles h).mono (List.subset_append_left _ _)
  | there hworker h => exact (WorkersSteps.settles h).mono (List.subset_append_right _ _)

end

/-- **A step of work closes none but refused hand-overs**, each of them under way before, and cuts
off none whose time is not over. -/
theorem Work.step_settles {w w' : World α} {job : Work α} {next : Stepped α}
    (h : job.step w = some (w', next)) : World.SettlesLate job.refusals w w' :=
  (Work.step_steps h).settles

/-! ## Steps of tasks -/

theorem World.foldl_error_settles {due : Nat → Prop} (w : World α) (errors : List CloseFailure)
    (fields : CloseFailure → List (String × String)) {message : String}
    (hmessage : message ≠ "Late resource failed to close") :
    World.Settles due w (errors.foldl (fun w failure => w.error message (fields failure)) w)
      [] [] := by
  induction errors generalizing w with
  | nil => exact .refl w
  | cons e rest ih =>
    exact (w.log_settles (by simpa [isLateFailure] using hmessage)).trans (ih _)

theorem Bootstrap.abort_settles {due : Nat → Prop} (w : World α) (b : Bootstrap α)
    (e : BootFailure) : World.Settles due w (b.abort w e).1 [] [] :=
  ((w.log_settles (by simp [isLateFailure])).trans
    (World.leaveBootstrap_settles _ .failedStartup)).trans (World.trigger_settles _ .fatalBootstrap)

theorem Bootstrap.step_settles {w w' : World α} {b : Bootstrap α}
    {next : Bootstrap α ⊕ Bootstrap.Result α} (h : b.step w = some (w', next)) :
    World.SettlesLate b.refusals w w' := by
  have hbody : ∀ {name limit due job}, b.stand = .body name limit due job →
      b.refusals = job.refusals := fun hstand => by simp [Bootstrap.refusals, hstand]
  cases Bootstrap.step_steps h with
  | finish hstand hwaiting => exact ⟨[], .refl w⟩
  | refuse hstand hwaiting haborted => exact ⟨[], .refl w⟩
  | begin hstand hwaiting haborted => exact ⟨[], w.note_settles rfl⟩
  | work hstand hjob =>
    rw [hbody hstand]
    exact Work.step_settles hjob
  | @done _ _ _ _ w₁ _ hstand hjob =>
    rw [hbody hstand]
    obtain ⟨late, hlate⟩ := Work.step_settles hjob
    exact ⟨_, hlate.trans (w₁.note_settles rfl)⟩
  | fail hstand hjob =>
    rw [hbody hstand]
    obtain ⟨late, hlate⟩ := Work.step_settles hjob
    exact ⟨_, hlate.trans (Bootstrap.abort_settles _ b _)⟩
  | timeOut hstand hjob hdue =>
    exact ⟨_, (w.giveUp_settles _).trans (Bootstrap.abort_settles _ b _)⟩
  | @tornDown e r hstand hr =>
    exact ⟨_, (w.note_settles rfl).trans (World.foldl_error_settles _ r.errors _ (by simp))⟩

theorem Task.step_settles {w w' : World α} {t t' : Task α} (h : t.step w = some (w', t')) :
    World.SettlesLate t.refusals w w' := by
  cases Task.step_steps h with
  | work hjob => exact Work.step_settles hjob
  | worked hjob => exact Work.step_settles hjob
  | boot hb => exact Bootstrap.step_settles hb
  | booted hb => exact Bootstrap.step_settles hb

end EventIntake.Lifecycle
