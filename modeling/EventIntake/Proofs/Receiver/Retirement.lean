import EventIntake.Proofs.Contract.Loop
import EventIntake.Proofs.Messaging.Delivery
import EventIntake.Proofs.Receiver.Enrolment

/-!
# The watch of a receiver and the shutdown

A receiver is followed along with its watch while everything goes on at once: the tasks and threads
of its process, the loop of the watch, those who write the file and those who use the bus.  The bus
and the publisher are closed when the process begins to close them, and by nobody else; the watch is
told to stop when its close begins, and that close waits for the loop.
-/

namespace EventIntake

open Lifecycle (Choice Enrolment)

/-- A receiver from its start on, with its watch and all that the watch sees. -/
structure Service extends Enrolment Unit where
  surroundings : Surroundings
  watcher : Watcher
  log : List WatchLoop.Event := []

namespace Service

inductive Move where
  | process (c : Choice Unit)
  | edit (change : Files.Tree → Files.Tree)
  | bus (op : Bus.Operation)
  | hint
  | tick
  | drain
  | read
  | handled

def Move.isOfLoop : Move → Bool
  | .tick | .drain | .read | .handled => true
  | .process _ | .edit _ | .bus _ | .hint => false

def follow (x : Service) : Service :=
  let s := x.surroundings
  let publishers :=
    if x.isClosing Publisher.name then s.publishers.map Publisher.close else s.publishers
  let bus := if x.isClosing Bus.name then s.bus.close else s.bus
  -- the watch is started when the publisher has been accepted
  let loop := x.watcher.loop.heed (x.isAccepted Publisher.name) (x.isClosing Watch.name)
  { x with
    surroundings := { s with publishers, bus }
    watcher := { x.watcher with loop } }

def wake (x : Service) (loop : WatchLoop) : Service :=
  { x with
    watcher := { x.watcher with loop }
    log := x.log ++ x.watcher.loop.wakes loop }

def choose (x : Service) (c : Choice Unit) : Service :=
  { x with toEnrolment := x.toEnrolment.take c }.follow

def take (x : Service) : Move → Service
  | .process c =>
    let next := x.choose c
    -- the close of the watch waits for the loop: until that has ended it can only be cut off
    if next.watcher.loop.isRunning && next.isClosed Watch.name then x else next
  | .edit change =>
    { x with surroundings := { x.surroundings with files := change x.surroundings.files } }
  | .bus .close => x
  | .bus op =>
    { x with surroundings := { x.surroundings with bus := (x.surroundings.bus.perform op).1 } }
  | .hint => { x with watcher := { x.watcher with loop := x.watcher.loop.hint } }
  | .tick => x.wake x.watcher.loop.tick
  | .drain => x.wake x.watcher.loop.drain
  | .read =>
    let l := x.watcher.loop
    let (loop, outcome) := l.read (x.surroundings.files.read l.watch.path)
    { x with
      watcher := { x.watcher with loop }
      log := x.log ++ (outcome.map .checked).toList }
  | .handled =>
    let l := x.watcher.loop
    match l.stand with
    | .handling contents =>
      let ((surroundings, handler), result) :=
        Handler.call (x.surroundings, x.watcher.handler) l.watch.path contents
      let (loop, outcome) := l.handled result
      { x with
        surroundings
        watcher := ⟨loop, handler⟩
        log := x.log ++ .called contents result :: (outcome.map .checked).toList }
    | _ => x

def start (r : Receiver) : Service :=
  { toEnrolment := Enrolment.start r.settings.closeTimeout r.phases
    surroundings := {
      files := r.files
      bus := r.bus
      publishers := [{ address := reconcilerAddress }] }
    watcher := ⟨{ watch := { path := r.settings.paths.contract } }, .publisher 0⟩ }

def run (r : Receiver) (moves : List Move) : Service := moves.foldl take (start r)

/-- It is the watch and the publisher of a receiver that runs. -/
theorem start_publishing (r : Receiver) :
    (Running.publishing r).toSurroundings = (start r).surroundings ∧
      (Running.publishing r).watchers =
        [{ (start r).watcher with loop := (start r).watcher.loop.start }] :=
  ⟨rfl, rfl⟩

end Service

/-- The watch was accepted, and its close did not fail. -/
structure Lifecycle.Enrolment.Orderly (x : Enrolment Unit) : Prop where
  accepted : x.isAccepted Watch.name
  clean : ∀ failure ∈ x.process.world.failures, failure.resource ≠ Watch.name

/-! ## What a receiver keeps -/

/-- A publisher and a bus that are open take what a handler has to publish. -/
theorem Handler.call_publisher {s : Surroundings} {address : String} {closed : Bool}
    (hpublishers : s.publishers = [⟨address, closed⟩]) (path : String) (contents : ByteArray) :
    let next := Handler.call (s, .publisher 0) path contents
    next.1.1.publishers = s.publishers ∧ next.1.1.bus.closed = s.bus.closed ∧
      next.1.2 = .publisher 0 ∧ (closed = false → s.bus.closed = false → next.2 = .ok ()) := by
  have hsend : ∀ m, s.bus.closed = false → ∃ next, s.bus.send m = .ok next := by
    intro m hopen
    simp only [Bus.send, hopen, Bool.false_eq_true, if_false]
    split <;> exact ⟨_, rfl⟩
  simp only [Handler.call, Surroundings.publish, hpublishers, List.getElem?_cons_zero,
    Publisher.publish]
  cases closed with
  | true => simp [hpublishers]
  | false =>
    cases hbus : s.bus.send (Publisher.message ⟨address, false⟩ path contents) with
    | error e =>
      refine ⟨hpublishers, rfl, rfl, fun _ hopen => ?_⟩
      obtain ⟨next, hnext⟩ := hsend _ hopen
      rw [hbus] at hnext
      cases hnext
    | ok next =>
      obtain ⟨bus, n⟩ := next
      exact ⟨by simp, by simp [Bus.send_closed hbus], by simp, fun _ _ => by simp⟩

namespace Service

open Lifecycle (World)

variable {r : Receiver} {x : Service}

/-- The bus, the publisher and the watch are as the process has left them. -/
structure Keeps (r : Receiver) (x : Service) : Prop where
  enrolment : x.toEnrolment.Keeps r.settings.closeTimeout r.phases
  publishers : x.surroundings.publishers = [⟨reconcilerAddress, x.isClosing Publisher.name⟩]
  bus : x.surroundings.bus.closed = (r.bus.closed || x.isClosing Bus.name)
  handler : x.watcher.handler = .publisher 0
  started : x.isAccepted Publisher.name → x.watcher.loop.isIdle = false
  stopping : x.isClosing Watch.name → x.watcher.loop.stopping = true ∧
    x.watcher.loop.stand.isWaiting = false
  closed : x.isClosed Watch.name → x.watcher.loop.isRunning = false

theorem keeps_start (r : Receiver) : (start r).Keeps r where
  enrolment := Lifecycle.Enrolment.keeps_start _ _
  publishers := rfl
  bus := (Bool.or_false _).symm
  handler := rfl
  started := (nomatch ·)
  stopping := (nomatch ·)
  closed := (nomatch ·)

namespace Keeps

theorem choose (k : x.Keeps r) (c : Choice Unit) (hclosed : (x.choose c).isClosed Watch.name →
    (x.choose c).watcher.loop.isRunning = false) : (x.choose c).Keeps r := by
  have hw := World.Onward.of_moves (x.process.take_moves k.enrolment.standing c)
  have hstill : ∀ {name}, (x.toEnrolment.take c).isClosing name = false →
      x.isClosing name = false := fun h =>
    Bool.eq_false_iff.mpr fun hyes =>
      Bool.eq_false_iff.mp h (Enrolment.has_take hyes hw.closings)
  refine ⟨k.enrolment.take c, ?_, ?_, k.handler, fun haccepted => ?_, fun hwatch => ?_, hclosed⟩
  · simp only [Service.choose, follow]
    rw [k.publishers]
    cases h : (x.toEnrolment.take c).isClosing Publisher.name with
    | true => rfl
    | false =>
      rw [hstill h]
      rfl
  · simp only [Service.choose, follow]
    cases h : (x.toEnrolment.take c).isClosing Bus.name with
    | true => rw [if_pos rfl, Bus.close_closed, Bool.or_true]
    | false => rw [if_neg Bool.false_ne_true, k.bus, hstill h]
  · have haccepted' : (x.toEnrolment.take c).isAccepted Publisher.name = true := haccepted
    simp only [Service.choose, follow, haccepted']
    exact WatchLoop.heed_isIdle _ _
  · have hwatch' : (x.toEnrolment.take c).isClosing Watch.name = true := hwatch
    simp only [Service.choose, follow, hwatch']
    exact WatchLoop.heed_stopping _ _

end Keeps

/-- What a move does that is not one of the process. -/
structure Aside (x y : Service) (events : List WatchLoop.Event) : Prop where
  enrolment : y.toEnrolment = x.toEnrolment
  publishers : y.surroundings.publishers = x.surroundings.publishers
  bus : y.surroundings.bus.closed = x.surroundings.bus.closed
  handler : y.watcher.handler = x.watcher.handler
  loop : x.watcher.loop.Goes y.watcher.loop events
  log : y.log = x.log ++ events
  /-- The handler is refused only when the publisher or the bus is closed. -/
  refused : ∀ contents e, .called contents (.error e) ∈ events → x.watcher.loop.isRunning = true ∧
    (x.isClosing Publisher.name ∨ x.surroundings.bus.closed)

theorem Aside.of_surroundings {y : Service} (henrolment : y.toEnrolment = x.toEnrolment)
    (hpublishers : y.surroundings.publishers = x.surroundings.publishers)
    (hbus : y.surroundings.bus.closed = x.surroundings.bus.closed)
    (hwatcher : y.watcher = x.watcher) (hlog : y.log = x.log) : Aside x y [] :=
  ⟨henrolment, hpublishers, hbus, by rw [hwatcher], hwatcher ▸ .refl _,
    by rw [hlog, List.append_nil], fun _ _ h => nomatch h⟩

theorem Aside.of_loop {loop : WatchLoop} {events : List WatchLoop.Event}
    (hloop : x.watcher.loop.Goes loop events) (hcalled : ∀ e ∈ events, ¬ e.isCalled) :
    Aside x { x with watcher := { x.watcher with loop }, log := x.log ++ events } events :=
  ⟨rfl, rfl, rfl, rfl, hloop, rfl, fun _ _ h => absurd rfl (hcalled _ h)⟩

namespace Keeps

/-- Whatever leaves the process alone has only the watch and its surroundings to account for. -/
theorem aside {y : Service} {events : List WatchLoop.Event} (k : x.Keeps r)
    (h : Aside x y events) : y.Keeps r := by
  have hsame := h.enrolment
  refine ⟨hsame ▸ k.enrolment, ?_, ?_, h.handler.trans k.handler, fun haccepted => ?_,
    fun hclosing => ?_, fun hclosed => ?_⟩
  · rw [h.publishers, hsame]
    exact k.publishers
  · rw [h.bus, hsame]
    exact k.bus
  · rw [h.loop.idle]
    exact k.started (hsame ▸ haccepted)
  · obtain ⟨hstopping, hwaiting⟩ := k.stopping (hsame ▸ hclosing)
    exact ⟨h.loop.stopping.trans hstopping, (h.loop.stops hstopping hwaiting).1⟩
  · exact (h.loop.rest (k.closed (hsame ▸ hclosed))).1

theorem handled (k : x.Keeps r) {contents : ByteArray}
    (hstand : x.watcher.loop.stand = .handling contents) :
    ∃ events, Aside x (x.take .handled) events := by
  obtain ⟨hpublishers, hbus, hhandler, hok⟩ := Handler.call_publisher k.publishers
    x.watcher.loop.watch.path contents
  simp only [Service.take, hstand]
  rw [k.handler]
  refine ⟨_, rfl, hpublishers, hbus, hhandler.trans k.handler.symm,
    WatchLoop.handled_goes hstand _, rfl, fun found e hcalled => ⟨?_, ?_⟩⟩
  · rw [WatchLoop.isRunning, hstand]
  · -- had both been open the answer would be another one
    by_contra hopen
    rw [not_or, Bool.not_eq_true, Bool.not_eq_true] at hopen
    simp [WatchLoop.handled, hstand, hok hopen.1 hopen.2] at hcalled

theorem take_aside (k : x.Keeps r) {m : Move} (hm : ∀ c, m ≠ .process c) :
    ∃ events, Aside x (x.take m) events := by
  have hwakes : ∀ l : WatchLoop, ∀ e ∈ x.watcher.loop.wakes l, ¬ e.isCalled := by
    intro l e he
    unfold WatchLoop.wakes at he
    split at he
    · rw [List.mem_singleton.mp he]
      exact Bool.false_ne_true
    · cases he
  cases m with
  | process c => exact absurd rfl (hm c)
  | edit change => exact ⟨[], .of_surroundings rfl rfl rfl rfl rfl⟩
  | bus op =>
    refine ⟨[], ?_⟩
    cases op with
    | close => exact .of_surroundings rfl rfl rfl rfl rfl
    | _ => exact .of_surroundings rfl rfl (Bus.perform_closed _ (by simp)) rfl rfl
  | hint =>
    refine ⟨[], rfl, rfl, rfl, rfl, WatchLoop.hint_goes _, (List.append_nil _).symm,
      fun _ _ h => nomatch h⟩
  | tick => exact ⟨_, .of_loop (WatchLoop.tick_goes _) (hwakes _)⟩
  | drain => exact ⟨_, .of_loop (WatchLoop.drain_goes _) (hwakes _)⟩
  | read => exact ⟨_, .of_loop (WatchLoop.read_goes _ _) (by simp [WatchLoop.Event.isCalled])⟩
  | handled =>
    by_cases hstand : ∃ contents, x.watcher.loop.stand = .handling contents
    · obtain ⟨contents, hstand⟩ := hstand
      exact k.handled hstand
    · refine ⟨[], ?_⟩
      simp only [Service.take]
      split
      · case h_1 contents h => exact absurd ⟨contents, h⟩ hstand
      · exact .of_surroundings rfl rfl rfl rfl rfl

/-- A move is a choice of the process with what follows from it, or leaves the process alone. -/
theorem take_cases (k : x.Keeps r) (m : Move) :
    (∃ c, x.take m = x.choose c ∧ (x.choose c).Keeps r) ∨
      ∃ events, Aside x (x.take m) events := by
  by_cases hm : ∃ c, m = .process c
  · obtain ⟨c, rfl⟩ := hm
    simp only [Service.take]
    split
    · exact .inr ⟨[], .of_surroundings rfl rfl rfl rfl rfl⟩
    · case isFalse h =>
      refine .inl ⟨c, rfl, k.choose c fun hclosed => ?_⟩
      rw [Bool.and_eq_true, not_and] at h
      exact Bool.eq_false_iff.mpr fun hrunning => h hrunning hclosed
  · exact .inr (k.take_aside (not_exists.mp hm))

theorem take (k : x.Keeps r) (m : Move) : (x.take m).Keeps r := by
  rcases k.take_cases m with ⟨c, heq, hkeeps⟩ | ⟨events, haside⟩
  · rw [heq]
    exact hkeeps
  · exact k.aside haside

/-- What has come to the close of a resource stays so. -/
theorem has_take (k : x.Keeps r) (m : Move) {name : String}
    {tickets : World Unit → List Nat} (hsub : ∀ {w w' : World Unit}, w.Onward w' →
      ∀ t ∈ tickets w, t ∈ tickets w') (h : x.has name (tickets x.process.world)) :
    (x.take m).has name (tickets (x.take m).process.world) := by
  rcases k.take_cases m with ⟨c, heq, -⟩ | ⟨events, haside⟩
  · have hw := World.Onward.of_moves (x.process.take_moves k.enrolment.standing c)
    rw [heq]
    exact Enrolment.has_take h (hsub hw)
  · rw [haside.enrolment]
    exact h

end Keeps

/-! ## No publication is refused -/

/-- The shutdown has begun, and the watch was not accepted before or its close has failed. -/
structure IsLate (x : Enrolment Unit) : Prop where
  accepting : x.process.world.coordinator.accepting = false
  not : ¬ x.Orderly

namespace Keeps

theorem isLate_take (k : x.Keeps r) (h : IsLate x.toEnrolment) (m : Move) :
    IsLate (x.take m).toEnrolment := by
  rcases k.take_cases m with ⟨c, heq, -⟩ | ⟨events, haside⟩
  · have hw := World.Onward.of_moves (x.process.take_moves k.enrolment.standing c)
    rw [heq]
    refine ⟨Bool.eq_false_iff.mpr fun hyes => ?_, fun ⟨haccepted, hclean⟩ => h.not ⟨?_, ?_⟩⟩
    · exact Bool.eq_false_iff.mp h.accepting (hw.accepting hyes).1
    · exact k.enrolment.isAccepted_of_take h.accepting haccepted
    · exact fun failure hfailure => hclean failure (hw.failures failure hfailure)
  · rw [haside.enrolment]
    exact h

/-- As long as the loop runs, what it uses is closed only if something has gone wrong. -/
theorem isLate_of_isClosing (k : x.Keeps r) (hrunning : x.watcher.loop.isRunning = true)
    {name : String} (huses : Uses Watch.name name) (hclosing : x.isClosing name) :
    IsLate x.toEnrolment := by
  refine ⟨k.enrolment.accepting_eq_false hclosing, fun ⟨haccepted, hclean⟩ => ?_⟩
  rcases k.enrolment.watch_isOver haccepted huses hclosing with hclosed | ⟨failure, hfailure, hname⟩
  · rw [k.closed hclosed] at hrunning
    cases hrunning
  · exact hclean failure hfailure hname

/-- Nothing that the watch uses is closed as long as its loop runs. -/
theorem isLate_of_closed (k : x.Keeps r) (hbus : r.bus.closed = false)
    (hrunning : x.watcher.loop.isRunning = true)
    (hclosed : x.isClosing Publisher.name ∨ x.surroundings.bus.closed) :
    IsLate x.toEnrolment := by
  rcases hclosed with hpublisher | hbusClosed
  · exact k.isLate_of_isClosing hrunning .watch hpublisher
  · rw [k.bus, hbus, Bool.false_or] at hbusClosed
    exact k.isLate_of_isClosing hrunning .watchBus hbusClosed

end Keeps

/-! ## Runs -/

theorem run_append (r : Receiver) (before after : List Move) :
    run r (before ++ after) = after.foldl take (run r before) := List.foldl_append

theorem Keeps.foldl (k : x.Keeps r) (moves : List Move) : (moves.foldl Service.take x).Keeps r := by
  induction moves generalizing x with
  | nil => exact k
  | cons m rest ih => exact ih (k.take m)

theorem run_keeps (r : Receiver) (moves : List Move) : (run r moves).Keeps r :=
  (keeps_start r).foldl moves

/-- A call of the handler that was refused was made too late. -/
theorem run_isLate (hbus : r.bus.closed = false) (moves : List Move) :
    ∀ contents e, .called contents (.error e) ∈ (run r moves).log →
      IsLate (run r moves).toEnrolment := by
  induction moves using List.reverseRecOn with
  | nil => exact fun _ _ h => nomatch h
  | append_singleton moves m ih =>
    have k := run_keeps r moves
    rw [run_append]
    intro contents e hcalled
    refine k.isLate_take ?_ m
    rcases k.take_cases m with ⟨c, heq, -⟩ | ⟨events, haside⟩
    · refine ih contents e ?_
      change _ ∈ ((run r moves).take m).log at hcalled
      rw [heq] at hcalled
      exact hcalled
    · change _ ∈ ((run r moves).take m).log at hcalled
      rw [haside.log] at hcalled
      rcases List.mem_append.mp hcalled with hold | hnew
      · exact ih contents e hold
      · obtain ⟨hrunning, hclosed⟩ := haside.refused contents e hnew
        exact k.isLate_of_closed hbus hrunning hclosed

namespace Keeps

theorem watch_started (k : x.Keeps r) {tickets : List Nat} (h : x.has Watch.name tickets) :
    x.watcher.loop.isIdle = false := by
  obtain ⟨e, he, hname, -⟩ := Enrolment.has_iff.mp h
  exact k.started (k.enrolment.publisher_accepted he hname)

theorem stops_take (k : x.Keeps r) (h : x.isClosing Watch.name) (m : Move) :
    ∃ events, (x.take m).log = x.log ++ events ∧ .woken ∉ events ∧
      events.countP WatchLoop.Event.isChecked + (x.take m).watcher.loop.underWay =
        x.watcher.loop.underWay := by
  obtain ⟨hstopping, hwaiting⟩ := k.stopping h
  rcases k.take_cases m with ⟨c, heq, -⟩ | ⟨events, haside⟩
  · have hloop : (x.choose c).watcher.loop = x.watcher.loop :=
      WatchLoop.heed_eq (k.watch_started h) hstopping hwaiting _ _
    refine ⟨[], ?_, List.not_mem_nil, ?_⟩
    · rw [heq, List.append_nil]
      rfl
    · rw [heq, hloop]
      exact Nat.zero_add _
  · obtain ⟨-, hwoken, hcount⟩ := haside.loop.stops hstopping hwaiting
    exact ⟨events, haside.log, hwoken, hcount⟩

/-- **A watch that was told to stop begins no check any more, and what is under way is at most
one.** -/
theorem stops (k : x.Keeps r) (h : x.isClosing Watch.name) (moves : List Move) :
    ∃ events, (moves.foldl Service.take x).log = x.log ++ events ∧ .woken ∉ events ∧
      events.countP WatchLoop.Event.isChecked + (moves.foldl Service.take x).watcher.loop.underWay =
        x.watcher.loop.underWay := by
  induction moves generalizing x with
  | nil => exact ⟨[], (List.append_nil _).symm, List.not_mem_nil, Nat.zero_add _⟩
  | cons m rest ih =>
    obtain ⟨events, hlog, hwoken, hcount⟩ := k.stops_take h m
    obtain ⟨more, hlog', hwoken', hcount'⟩ := ih (k.take m) (k.has_take m (·.closings) h)
    refine ⟨events ++ more, ?_, ?_, ?_⟩
    · rw [List.foldl_cons, hlog', hlog, List.append_assoc]
    · rw [List.mem_append]
      exact not_or.mpr ⟨hwoken, hwoken'⟩
    · rw [List.countP_append, List.foldl_cons, Nat.add_assoc, hcount', hcount]

theorem rests_take (k : x.Keeps r) (h : x.isClosed Watch.name) (m : Move) :
    (x.take m).log = x.log := by
  rcases k.take_cases m with ⟨c, heq, -⟩ | ⟨events, haside⟩
  · rw [heq]
    rfl
  · rw [haside.log, (haside.loop.rest (k.closed h)).2, List.append_nil]

/-- **Nothing more is seen of a watch whose close has come back.** -/
theorem rests (k : x.Keeps r) (h : x.isClosed Watch.name) (moves : List Move) :
    (moves.foldl Service.take x).log = x.log := by
  induction moves generalizing x with
  | nil => rfl
  | cons m rest ih =>
    rw [List.foldl_cons, ih (k.take m) (k.has_take m (·.ended) h)]
    exact k.rests_take h m

/-- A loop that does not run leaves everything as it is. -/
theorem surroundings_take (k : x.Keeps r) (h : x.isClosed Watch.name) {m : Move}
    (hm : m.isOfLoop) : (x.take m).surroundings = x.surroundings := by
  have hrest := k.closed h
  cases m with
  | handled =>
    simp only [Service.take]
    split
    · case h_1 contents hstand => simp [WatchLoop.isRunning, hstand] at hrest
    · rfl
  | tick => rfl
  | drain => rfl
  | read => rfl
  | _ => cases hm

end Keeps

/-- In the end the report tells whether the shutdown was orderly. -/
theorem Keeps.orderly (k : x.Keeps r) {report : Lifecycle.Report}
    (haccepted : x.isAccepted Watch.name)
    (hreport : x.process.world.coordinator.report = some report)
    (hclean : ∀ failure ∈ report.errors, failure.resource ≠ Watch.name) : x.Orderly := by
  refine ⟨haccepted, ?_⟩
  rw [k.enrolment.standing.failures_eq hreport]
  exact hclean

/-- How a watch retires, from the moment `x` of a run to the later moment `y`. -/
structure Retires (x y : Service) : Prop where
  /-- No call of the handler was refused. -/
  accepted : ∀ contents result, .called contents result ∈ y.log → result = .ok ()
  ready : y.watcher.loop.isRunning → ∀ path contents,
    (Handler.call (y.surroundings, y.watcher.handler) path contents).2 = .ok ()
  /-- From the begin of its close on the loop does not wake, and what comes to its end is the check
  that is under way. -/
  stops : x.isClosing Watch.name → ∃ events, y.log = x.log ++ events ∧ .woken ∉ events ∧
    events.countP WatchLoop.Event.isChecked ≤ if x.watcher.loop.isChecking then 1 else 0
  /-- Once its close has come back nothing more is seen of the watch, and it sends nothing. -/
  rests : x.isClosed Watch.name → y.log = x.log ∧
    ∀ m : Move, m.isOfLoop → (y.take m).surroundings = y.surroundings

/-- **No publication is refused by an orderly shutdown.**  Files, bus and process go on in any way
while the watch is closed. -/
theorem watch_retires (r : Receiver) (hbus : r.bus.closed = false) (before after : List Move)
    (h : (run r (before ++ after)).Orderly) :
    Retires (run r before) (run r (before ++ after)) := by
  have k := run_keeps r before
  have k' := run_keeps r (before ++ after)
  have hlate := run_isLate hbus (before ++ after)
  refine ⟨fun contents result hcalled => ?_, fun hrunning path contents => ?_, fun hclosing => ?_,
    fun hclosed => ⟨?_, fun m hm => ?_⟩⟩
  · cases result with
    | ok u => rfl
    | error e => exact absurd h (hlate contents e hcalled).not
  · obtain ⟨-, -, -, hok⟩ := Handler.call_publisher k'.publishers path contents
    rw [k'.handler]
    refine hok ?_ ?_
    · exact Bool.eq_false_iff.mpr fun hclosing =>
        (k'.isLate_of_closed hbus hrunning (.inl hclosing)).not h
    · exact Bool.eq_false_iff.mpr fun hclosed =>
        (k'.isLate_of_closed hbus hrunning (.inr hclosed)).not h
  · obtain ⟨events, hlog, hwoken, hcount⟩ := k.stops hclosing after
    refine ⟨events, ?_, hwoken, ?_⟩
    · rw [run_append]
      exact hlog
    · rw [← WatchLoop.underWay, ← hcount]
      exact Nat.le_add_right _ _
  · rw [run_append]
    exact k.rests hclosed after
  · refine k'.surroundings_take ?_ hm
    rw [run_append]
    clear h k' hlate
    induction after using List.reverseRecOn with
    | nil => exact hclosed
    | append_singleton after m ih =>
      rw [List.foldl_append]
      exact (k.foldl after).has_take m (·.ended) ih

/-- A receiver with one worker, and with a contract to publish. -/
def lone : Receiver where
  settings := {
    ingress := { instances := some 1 }
    paths := { producer := "options", httpServer := "options", contract := "contract" } }
  files := ⟨[(["options"], .file ⟨#[]⟩), (["contract"], .file ⟨#[1]⟩)]⟩

/-- It starts, its watch wakes, and the shutdown goes on until it is the turn of the watch. -/
def untilClosing : List Move :=
  List.replicate 28 (.process (.task 0)) ++ .tick :: .process (.call [.trigger .signal]) ::
    .process (.task 1) :: List.replicate 5 (.process (.thread 0))

def fromClosing : List Move := .read :: .handled :: List.replicate 21 (.process (.thread 0))

/-- The shutdown comes upon a check that is under way. -/
theorem watch_retires_lone :
    lone.bus.closed = false ∧ (run lone (untilClosing ++ fromClosing)).Orderly ∧
      (run lone untilClosing).isClosing Watch.name ∧
      (run lone untilClosing).watcher.loop.isChecking ∧
      (run lone (untilClosing ++ fromClosing)).isClosed Watch.name ∧
      Retires (run lone untilClosing) (run lone (untilClosing ++ fromClosing)) := by
  have hreport : (run lone (untilClosing ++ fromClosing)).process.world.coordinator.report.map
      Lifecycle.Report.errors = some [] := by decide +kernel
  obtain ⟨report, hreport, hclean⟩ := Option.map_eq_some_iff.mp hreport
  have horderly := (run_keeps lone _).orderly (by decide +kernel) hreport (by simp [hclean])
  exact ⟨rfl, horderly, by decide +kernel, by decide +kernel, by decide +kernel,
    watch_retires lone rfl untilClosing fromClosing horderly⟩

end Service

end EventIntake
