import EventIntake.Contract.Exchange
import EventIntake.Proofs.Messaging.Delivery
import Mathlib.Algebra.Ring.Nat
import Mathlib.Data.List.Chain

/-!
# Propagation of a contract

A watch whose handler is a publisher, and a bus with consumers.  The file under the watch may change
in any way between two checks, consumers come and go, and the publisher and the bus may be closed at
any time.  A run leaves a history, in which a check that published stands with the contents that it
read.

Seen from the bus a contract that was published is a message that was sent.  So the books of the bus
(`Bus.Keeps`) are kept along with those of the watch, and what a consumer is owed is what was
published while it was attached.

* `Propagation.owed_onBus`: what the publications of a history owe to a consumer.
* `Propagation.Keeps.check_of_open`, `Propagation.Keeps.check_of_closed`: a check that finds new
  contents publishes them or, after a closing, is refused and changes nothing.
* `Propagation.run_propagates`: file, watch, metrics and consumers stay in step over every run.
-/

namespace EventIntake.Propagation

/-- A watch of `path` whose handler is a publisher to `address`. -/
def watching (address path : String) (files : Files.Tree) (metrics : Metrics) : Exchange :=
  ((({ files, metrics } : Exchange).addPublisher address).1.addPublishing path 0).1

/-! ## Operations and events -/

inductive Operation where
  | edit (change : Files.Tree → Files.Tree)
  | check
  | attach (address : String)
  | receive (i : Nat)
  | drop (i : Nat)
  | closePublisher
  | closeBus

inductive Event where
  | published (contents : ByteArray)
  | attached (i : Nat) (address : String)
  | received (i : Nat) (m : Message)
  | dropped (i : Nat) (discarded : List Message)
  | publisherClosed
  | busClosed

def perform (x : Exchange) : Operation → Exchange × List Event
  | .edit change => ({ x with files := change x.files }, [])
  | .check =>
    match x.check 0 with
    | (next, some (watch, .published _)) =>
      (next, ((x.files.read watch.path).toOption.map Event.published).toList)
    | (next, _) => (next, [])
  | .attach address =>
    match x.bus.attach address with
    | .ok (bus, i) => ({ x with bus }, [.attached i address])
    | .error _ => (x, [])
  | .receive i =>
    match x.bus.receive i with
    | (bus, .message m) => ({ x with bus }, [.received i m])
    | (bus, _) => ({ x with bus }, [])
  | .drop i => ({ x with bus := x.bus.drop i }, [.dropped i (x.bus.pending i)])
  | .closePublisher => (x.closePublisher 0, [.publisherClosed])
  | .closeBus => ({ x with bus := x.bus.close }, [.busClosed])

def run (x : Exchange) : List Operation → Exchange × List Event
  | [] => (x, [])
  | op :: rest =>
    let (next, h) := perform x op
    let (last, h') := run next rest
    (last, h ++ h')

/-! ## What a history tells -/

def published (h : List Event) : List ByteArray :=
  h.filterMap fun
    | .published contents => some contents
    | _ => none

/-- The fingerprint of what was published last. -/
def lastFingerprint (h : List Event) : Option Fingerprint := (published h).getLast?.map .of

def message (address path : String) (contents : ByteArray) : Message :=
  ({ address } : Publisher).message path contents

def Event.onBus (address path : String) : Event → Option Bus.Event
  | .published contents => some (.sent (message address path contents))
  | .attached i a => some (.attached i a)
  | .received i m => some (.received i m)
  | .dropped i l => some (.dropped i l)
  | .publisherClosed => none
  | .busClosed => some .closed

def onBus (address path : String) (h : List Event) : List Bus.Event :=
  h.filterMap (·.onBus address path)

def Event.isDrop (i : Nat) : Event → Bool
  | .dropped j _ => j == i
  | _ => false

/-- The contents that were published until consumer `i` was dropped. -/
def publishedFor (i : Nat) (h : List Event) : List ByteArray :=
  published (h.takeWhile fun e => !e.isDrop i)

/-- What has come to consumer `i`: what it received, what was discarded with it and what it still
has. -/
def delivered (address path : String) (x : Exchange) (h : List Event) (i : Nat) : List Message :=
  Bus.receivedBy i (onBus address path h) ++ Bus.discardedBy i (onBus address path h)
    ++ x.bus.pending i

variable {address path : String} {files : Files.Tree} {metrics : Metrics} {x : Exchange}
  {h : List Event}

theorem published_append (h h' : List Event) : published (h ++ h') = published h ++ published h' :=
  List.filterMap_append

theorem onBus_append (address path : String) (h h' : List Event) :
    onBus address path (h ++ h') = onBus address path h ++ onBus address path h' :=
  List.filterMap_append

theorem sentTo_onBus (a : String) (h : List Event) : Bus.sentTo a (onBus address path h) =
    if address = a then (published h).map (message address path) else [] := by
  rw [Bus.sentTo, onBus, List.filterMap_filterMap]
  split
  · case isTrue ha =>
    rw [published, List.map_filterMap]
    refine congrArg (List.filterMap · h) (funext fun e => ?_)
    cases e <;> simp [Event.onBus, message, Publisher.message, ha]
  · case isFalse ha =>
    refine List.filterMap_eq_nil_iff.mpr fun e _ => ?_
    cases e <;> simp [Event.onBus, message, Publisher.message, ha]

theorem takeWhile_onBus (i : Nat) (h : List Event) :
    ((onBus address path h).takeWhile fun e => !e.isDrop i) =
      onBus address path (h.takeWhile fun e => !e.isDrop i) := by
  rw [onBus, List.takeWhile_filterMap]
  refine congrArg (fun p => onBus address path (h.takeWhile p)) (funext fun e => ?_)
  cases e <;> rfl

/-- What a consumer is owed is what was published for it, if it is at the publisher's address. -/
theorem owed_onBus (i : Nat) (a : String) (h : List Event) :
    Bus.owed i a (onBus address path h) =
      if address = a then (publishedFor i h).map (message address path) else [] := by
  rw [Bus.owed, takeWhile_onBus, sentTo_onBus]
  rfl

theorem closed_mem_onBus (address path : String) :
    .closed ∈ onBus address path h ↔ .busClosed ∈ h := by
  rw [onBus, List.mem_filterMap]
  refine ⟨fun ⟨e, he, hclosed⟩ => ?_, fun he => ⟨_, he, rfl⟩⟩
  cases e with
  | busClosed => exact he
  | _ => cases hclosed

/-! ## The books -/

/-- The watch, the publisher, the bus and the metrics are what the events of `h` have left of
them. -/
structure Keeps (address path : String) (metrics : Metrics) (x : Exchange) (h : List Event) :
    Prop where
  bus : x.bus.Keeps (onBus address path h)
  publisher : ∃ closed, x.publishers = [⟨address, closed⟩] ∧ (closed = true ↔ .publisherClosed ∈ h)
  members : x.members = [0]
  watch : x.watchers = [⟨{ watch := ⟨path, lastFingerprint h⟩ }, .publisher 0⟩]
  metrics : x.metrics = { metrics with
    contractsPublished := metrics.contractsPublished + (published h).length
    contractBytes := metrics.contractBytes + ((published h).map ByteArray.size).sum }
  changed : (published h).IsChain fun before after => Fingerprint.of before ≠ .of after

theorem keeps_watching (address path : String) (files : Files.Tree) (metrics : Metrics) :
    Keeps address path metrics (watching address path files metrics) [] where
  bus := Bus.keeps_empty
  publisher := ⟨false, rfl, by simp⟩
  members := rfl
  watch := rfl
  metrics := rfl
  changed := .nil

/-! ## One check -/

def watchAfter (path : String) (h : List Event) : Watch := ⟨path, lastFingerprint h⟩

theorem Keeps.check_of_look_inl (k : Keeps address path metrics x h) {outcome : Observation}
    (hlook : (watchAfter path h).look (x.files.read path) = .inl outcome) :
    x.check 0 = (x, some (watchAfter path h, outcome)) := by
  have hcheck : (watchAfter path h).check Exchange.readFile Handler.call
      (x.toSurroundings, .publisher 0) =
        ((x.toSurroundings, .publisher 0), watchAfter path h, outcome) :=
    Watch.check_of_look_inl hlook
  have hwatch : x.watchers[0]? = some ⟨{ watch := watchAfter path h }, .publisher 0⟩ := by
    rw [k.watch]
    rfl
  have hset : x.watchers.set 0 ⟨{ watch := watchAfter path h }, .publisher 0⟩ = x.watchers := by
    rw [k.watch]
    rfl
  simp only [Exchange.check, hwatch, WatchLoop.isIdle, Stand.isIdle, if_true, hcheck, hset]

/-- A check that finds other contents than those published last hands them to the publisher. -/
theorem Keeps.check_of_call (k : Keeps address path metrics x h) {contents : ByteArray}
    (hread : x.files.read path = .ok contents) (hnew : lastFingerprint h ≠ some (.of contents))
    {s : Surroundings} {result : Except String Unit}
    (hcall : Handler.call (x.toSurroundings, .publisher 0) path contents =
      ((s, .publisher 0), result)) :
    x.check 0 =
      ({ x with
          toSurroundings := s
          watchers :=
            [⟨{ watch := ((watchAfter path h).settle contents result).1 }, .publisher 0⟩] },
        some ((watchAfter path h).settle contents result)) := by
  have hlook : (watchAfter path h).look (x.files.read path) = .inr contents := by
    rw [hread, Watch.look]
    exact if_neg hnew
  have hcheck : (watchAfter path h).check Exchange.readFile Handler.call
      (x.toSurroundings, .publisher 0) =
        ((s, .publisher 0), (watchAfter path h).settle contents result) := by
    simp only [Watch.check, Exchange.readFile]
    rw [show (watchAfter path h).path = path from rfl, hlook]
    simp only [hcall]
  have hwatch : x.watchers[0]? = some ⟨{ watch := watchAfter path h }, .publisher 0⟩ := by
    rw [k.watch]
    rfl
  have hset : ∀ w : Watcher, x.watchers.set 0 w = [w] := fun w => by
    rw [k.watch]
    rfl
  simp only [Exchange.check, hwatch, WatchLoop.isIdle, Stand.isIdle, if_true, hcheck, hset]

/-- **While publisher and bus are open, what the publisher is handed goes out.** -/
theorem Keeps.call_of_open (k : Keeps address path metrics x h) (hpublisher : .publisherClosed ∉ h)
    (hbus : .busClosed ∉ h) (contents : ByteArray) :
    ∃ bus n, x.bus.send (message address path contents) = .ok (bus, n) ∧
      Handler.call (x.toSurroundings, .publisher 0) path contents =
        (({ x.toSurroundings with bus, metrics := x.metrics.published contents.size },
          .publisher 0), .ok ()) := by
  obtain ⟨closed, hpublishers, hclosed⟩ := k.publisher
  obtain rfl : closed = false := by rwa [← hclosed, Bool.not_eq_true] at hpublisher
  have hopen : x.bus.closed = false := by
    rw [← closed_mem_onBus address path, ← k.bus.closed] at hbus
    exact Bool.eq_false_iff.mpr hbus
  obtain ⟨bus, hsend, -⟩ := k.bus.send_of_open hopen (message address path contents)
  refine ⟨bus, _, hsend, ?_⟩
  have hpublish : Publisher.publish ⟨address, false⟩ path contents x.bus x.metrics =
      .ok (bus, x.metrics.published contents.size, contents.size) := by
    rw [Publisher.publish, if_neg Bool.false_ne_true]
    rw [message] at hsend
    rw [hsend]
  simp only [Handler.call, Surroundings.publish, hpublishers, List.getElem?_cons_zero, hpublish]

/-- **After a closing it is refused, and nothing is changed**: by the publisher itself if it was
closed, or else by the bus. -/
theorem Keeps.call_of_closed (k : Keeps address path metrics x h)
    (hclosed : .publisherClosed ∈ h ∨ .busClosed ∈ h) (contents : ByteArray) :
    ∃ failure : PublishFailure,
      (failure = .closed ∧ .publisherClosed ∈ h ∨ failure = .bus .closed ∧ .busClosed ∈ h) ∧
      Handler.call (x.toSurroundings, .publisher 0) path contents =
        ((x.toSurroundings, .publisher 0), .error failure.message) := by
  obtain ⟨closed, hpublishers, hpublisher⟩ := k.publisher
  cases closed with
  | true =>
    refine ⟨.closed, .inl ⟨rfl, hpublisher.mp rfl⟩, ?_⟩
    have hpublish : Publisher.publish ⟨address, true⟩ path contents x.bus x.metrics =
        .error .closed := if_pos rfl
    simp only [Handler.call, Surroundings.publish, hpublishers, List.getElem?_cons_zero, hpublish]
  | false =>
    have hbus : .busClosed ∈ h := hclosed.resolve_left fun hp => by simpa using hpublisher.mpr hp
    have hsend : x.bus.send (message address path contents) = .error .closed := by
      have hclosed := k.bus.closed.mpr ((closed_mem_onBus address path).mpr hbus)
      rw [Bus.send, if_pos hclosed]
    refine ⟨.bus .closed, .inr ⟨rfl, hbus⟩, ?_⟩
    have hpublish : Publisher.publish ⟨address, false⟩ path contents x.bus x.metrics =
        .error (.bus .closed) := by
      rw [Publisher.publish, if_neg Bool.false_ne_true]
      rw [message] at hsend
      rw [hsend]
    simp only [Handler.call, Surroundings.publish, hpublishers, List.getElem?_cons_zero, hpublish]

/-- The exchange after a check has published. -/
def afterPublishing (path : String) (x : Exchange) (contents : ByteArray) (bus : Bus) : Exchange :=
  { x with
    bus
    metrics := x.metrics.published contents.size
    watchers := [⟨{ watch := ⟨path, some (.of contents)⟩ }, .publisher 0⟩] }

theorem Keeps.check_of_open (k : Keeps address path metrics x h) (hpublisher : .publisherClosed ∉ h)
    (hbus : .busClosed ∉ h) {contents : ByteArray} (hread : x.files.read path = .ok contents)
    (hnew : lastFingerprint h ≠ some (.of contents)) :
    ∃ bus n, x.bus.send (message address path contents) = .ok (bus, n) ∧
      x.check 0 = (afterPublishing path x contents bus,
        some (⟨path, some (.of contents)⟩, .published (.of contents))) := by
  obtain ⟨bus, n, hsend, hcall⟩ := k.call_of_open hpublisher hbus contents
  exact ⟨bus, n, hsend, k.check_of_call hread hnew hcall⟩

theorem Keeps.check_of_closed (k : Keeps address path metrics x h)
    (hclosed : .publisherClosed ∈ h ∨ .busClosed ∈ h) {contents : ByteArray}
    (hread : x.files.read path = .ok contents) (hnew : lastFingerprint h ≠ some (.of contents)) :
    ∃ failure : PublishFailure,
      (failure = .closed ∧ .publisherClosed ∈ h ∨ failure = .bus .closed ∧ .busClosed ∈ h) ∧
      x.check 0 = (x, some (watchAfter path h, .refused path failure.message)) := by
  obtain ⟨failure, hfailure, hcall⟩ := k.call_of_closed hclosed contents
  refine ⟨failure, hfailure, (k.check_of_call hread hnew hcall).trans ?_⟩
  rw [show ((watchAfter path h).settle contents (.error failure.message)).1 = watchAfter path h from
    rfl, watchAfter, ← k.watch]
  rfl

theorem look_eq_inl (path : String) {r : Except ReadError ByteArray}
    (hold : ∀ contents, r = .ok contents → lastFingerprint h = some (.of contents)) :
    ∃ outcome, (watchAfter path h).look r = .inl outcome ∧ ∀ f, outcome ≠ .published f := by
  cases r with
  | ok contents => exact ⟨.unchanged, if_pos (hold contents rfl), by simp⟩
  | error e =>
    cases e with
    | notFound => exact ⟨.missing, rfl, by simp⟩
    | _ => exact ⟨.unreadable path _, rfl, by simp⟩

/-- **A check publishes new contents, or it changes nothing.** -/
theorem Keeps.check_cases (k : Keeps address path metrics x h) :
    (∃ outcome, x.check 0 = (x, some (watchAfter path h, outcome)) ∧ ∀ f, outcome ≠ .published f) ∨
    ∃ contents bus n, x.files.read path = .ok contents ∧ lastFingerprint h ≠ some (.of contents) ∧
      (.publisherClosed ∉ h ∧ .busClosed ∉ h) ∧
      x.bus.send (message address path contents) = .ok (bus, n) ∧
      x.check 0 = (afterPublishing path x contents bus,
        some (⟨path, some (.of contents)⟩, .published (.of contents))) := by
  by_cases hold : ∀ contents, x.files.read path = .ok contents →
      lastFingerprint h = some (.of contents)
  · obtain ⟨outcome, hlook, hquiet⟩ := look_eq_inl path hold
    exact .inl ⟨outcome, k.check_of_look_inl hlook, hquiet⟩
  · obtain ⟨contents, hread, hnew⟩ : ∃ contents, x.files.read path = .ok contents ∧
        lastFingerprint h ≠ some (.of contents) := by simpa using hold
    by_cases hclosed : .publisherClosed ∈ h ∨ .busClosed ∈ h
    · obtain ⟨failure, -, hcheck⟩ := k.check_of_closed hclosed hread hnew
      exact .inl ⟨_, hcheck, by simp⟩
    · have hopen := not_or.mp hclosed
      obtain ⟨bus, n, hsend, hcheck⟩ := k.check_of_open hopen.1 hopen.2 hread hnew
      exact .inr ⟨contents, bus, n, hread, hnew, hopen, hsend, hcheck⟩

/-! ## What each operation does to the books -/

theorem Keeps.concat_bus (k : Keeps address path metrics x h) {e : Event} {bus : Bus}
    (hquiet : published [e] = []) (hopen : e ≠ .publisherClosed)
    (hbus : bus.Keeps (onBus address path h ++ onBus address path [e])) :
    Keeps address path metrics { x with bus } (h ++ [e]) := by
  have hpublished : published (h ++ [e]) = published h := by
    rw [published_append, hquiet, List.append_nil]
  obtain ⟨closed, hpublishers, hclosed⟩ := k.publisher
  refine ⟨by rwa [onBus_append], ⟨closed, hpublishers, ?_⟩, k.members, ?_, ?_, ?_⟩
  · rw [hclosed, List.mem_append, List.mem_singleton, or_iff_left hopen.symm]
  · rw [lastFingerprint, hpublished]
    exact k.watch
  · rw [hpublished]
    exact k.metrics
  · rw [hpublished]
    exact k.changed

theorem Keeps.closePublisher (k : Keeps address path metrics x h) :
    Keeps address path metrics (x.closePublisher 0) (h ++ [.publisherClosed]) := by
  have hpublished : published (h ++ [.publisherClosed]) = published h := by
    rw [published_append, show published [.publisherClosed] = [] from rfl, List.append_nil]
  obtain ⟨closed, hpublishers, -⟩ := k.publisher
  have hfamily : x.family 0 = 0 := by
    rw [Exchange.family, k.members]
    rfl
  refine ⟨?_, ⟨true, ?_, by simp⟩, k.members, ?_, ?_, ?_⟩
  · rw [onBus_append, show onBus address path [.publisherClosed] = [] from rfl, List.append_nil]
    exact k.bus
  · rw [Exchange.closePublisher, hfamily, hpublishers]
    rfl
  · rw [lastFingerprint, hpublished]
    exact k.watch
  · rw [hpublished]
    exact k.metrics
  · rw [hpublished]
    exact k.changed

theorem Keeps.published (k : Keeps address path metrics x h) {contents : ByteArray}
    (hnew : lastFingerprint h ≠ some (.of contents)) {bus : Bus} {n : Nat}
    (hsend : x.bus.send (message address path contents) = .ok (bus, n)) :
    Keeps address path metrics (afterPublishing path x contents bus)
      (h ++ [.published contents]) := by
  have hpublished : Propagation.published (h ++ [.published contents]) =
      Propagation.published h ++ [contents] := published_append ..
  obtain ⟨closed, hpublishers, hclosed⟩ := k.publisher
  refine ⟨?_, ⟨closed, hpublishers, by simpa using hclosed⟩, k.members, ?_, ?_, ?_⟩
  · rw [onBus_append]
    exact k.bus.send hsend
  · rw [lastFingerprint, hpublished, List.getLast?_append]
    rfl
  · rw [hpublished]
    simp only [afterPublishing, k.metrics, Metrics.published, List.length_append,
      List.length_singleton, List.map_append, List.map_singleton, List.sum_append,
      List.sum_singleton, Nat.add_assoc]
  · rw [hpublished, List.isChain_append]
    refine ⟨k.changed, List.isChain_singleton _, fun before hbefore after hafter => ?_⟩
    obtain rfl : contents = after := by simpa using hafter
    intro hsame
    refine hnew ?_
    rw [lastFingerprint, Option.mem_def.mp hbefore, ← hsame]
    rfl

theorem Keeps.check (k : Keeps address path metrics x h) :
    Keeps address path metrics (perform x .check).1 (h ++ (perform x .check).2) := by
  rw [Propagation.perform]
  rcases k.check_cases with ⟨outcome, hcheck, hquiet⟩ |
    ⟨contents, bus, n, hread, hnew, -, hsend, hcheck⟩
  · rw [hcheck]
    split
    · case h_1 hpublished =>
      cases hpublished
      exact absurd rfl (hquiet _)
    · case h_2 hsame =>
      cases hsame
      rwa [List.append_nil]
  · rw [hcheck]
    simp only [hread]
    exact k.published hnew hsend

/-- **Every operation keeps the books.** -/
theorem Keeps.perform (k : Keeps address path metrics x h) (op : Operation) :
    Keeps address path metrics (perform x op).1 (h ++ (perform x op).2) := by
  cases op with
  | edit change =>
    rw [Propagation.perform, List.append_nil]
    exact ⟨k.bus, k.publisher, k.members, k.watch, k.metrics, k.changed⟩
  | check => exact k.check
  | attach a =>
    rw [Propagation.perform]
    split
    · case h_1 hattach => exact k.concat_bus rfl (by simp) (k.bus.attach hattach)
    · rwa [List.append_nil]
  | receive i =>
    rw [Propagation.perform]
    split
    · case h_1 hreceive =>
      refine k.concat_bus rfl (by simp) ?_
      have hbus := k.bus.receive (congrArg Prod.snd hreceive)
      rwa [hreceive] at hbus
    · case h_2 bus r hnone hreceive =>
      have hsame : bus = x.bus := by
        rw [← Bus.receive_fst (b := x.bus) (i := i), hreceive]
        rw [hreceive]
        exact hnone
      rw [List.append_nil, hsame]
      exact k
  | drop i => exact k.concat_bus rfl (by simp) (k.bus.drop i)
  | closePublisher => exact k.closePublisher
  | closeBus => exact k.concat_bus rfl (by simp) k.bus.close

/-- **And so does every run of them.** -/
theorem Keeps.run (k : Keeps address path metrics x h) (ops : List Operation) :
    Keeps address path metrics (run x ops).1 (h ++ (run x ops).2) := by
  induction ops generalizing x h with
  | nil => rwa [Propagation.run, List.append_nil]
  | cons op rest ih =>
    have hrest := ih (k.perform op)
    rw [List.append_assoc] at hrest
    exact hrest

/-! ## What a run propagates -/

/-- What holds of a watch, its publisher, the bus and the metrics after the events of `h`. -/
structure Propagates (address path : String) (metrics : Metrics) (x : Exchange) (h : List Event) :
    Prop where
  /-- To a consumer of the publisher's address has come exactly what was published while it was
  attached, in that order, and nothing to any other. -/
  delivery : ∀ pre i a post, h = pre ++ .attached i a :: post → delivered address path x h i =
    if address = a then (publishedFor i post).map (message address path) else []
  /-- All of it carries the path that is watched. -/
  source : ∀ pre i a post, h = pre ++ .attached i a :: post → ∀ m ∈ delivered address path x h i,
    m.headers = [(sourceHeader, path)] ∧ m.header? sourceHeader = some path
  changed : (published h).IsChain fun before after => Fingerprint.of before ≠ .of after
  /-- The watch remembers what it published last. -/
  watch : ∃ w, x.watchers[0]? = some w ∧ w.loop.watch = ⟨path, lastFingerprint h⟩
  /-- New contents are published as long as nothing is closed. -/
  publishes : .publisherClosed ∉ h → .busClosed ∉ h → ∀ contents,
    x.files.read path = .ok contents → lastFingerprint h ≠ some (.of contents) →
      (perform x .check).2 = [.published contents] ∧
      (x.check 0).2 = some (⟨path, some (.of contents)⟩, .published (.of contents))
  idle : ∀ w outcome, (x.check 0).2 = some (w, outcome) → (∀ f, outcome ≠ .published f) →
    (x.check 0).1 = x
  /-- After a closing no check changes anything, and new contents are refused by what was closed. -/
  closed : .publisherClosed ∈ h ∨ .busClosed ∈ h → (x.check 0).1 = x ∧ ∀ contents,
    x.files.read path = .ok contents → lastFingerprint h ≠ some (.of contents) →
      ∃ failure : PublishFailure,
        (failure = .closed ∧ .publisherClosed ∈ h ∨ failure = .bus .closed ∧ .busClosed ∈ h) ∧
        (x.check 0).2 = some (⟨path, lastFingerprint h⟩, .refused path failure.message)
  metrics : x.metrics = { metrics with
    contractsPublished := metrics.contractsPublished + (published h).length
    contractBytes := metrics.contractBytes + ((published h).map ByteArray.size).sum }

theorem Keeps.delivery (k : Keeps address path metrics x h) {pre post : List Event} {i : Nat}
    {a : String} (hsplit : h = pre ++ .attached i a :: post) : delivered address path x h i =
      if address = a then (publishedFor i post).map (message address path) else [] := by
  have hbus : onBus address path h =
      onBus address path pre ++ .attached i a :: onBus address path post := by
    rw [hsplit, onBus_append]
    rfl
  rw [← owed_onBus]
  exact (k.bus.account _ _ _ _ hbus).balance

theorem Keeps.propagates (k : Keeps address path metrics x h) :
    Propagates address path metrics x h where
  delivery := fun pre i a post hsplit => k.delivery hsplit
  source := fun pre i a post hsplit m hm => by
    rw [k.delivery hsplit] at hm
    split at hm
    · obtain ⟨contents, -, rfl⟩ := List.mem_map.mp hm
      exact ⟨rfl, (Message.header?_cons ..).trans (if_pos rfl)⟩
    · cases hm
  changed := k.changed
  watch := ⟨_, by rw [k.watch]; rfl, rfl⟩
  publishes := fun hpublisher hbus contents hread hnew => by
    obtain ⟨bus, n, -, hcheck⟩ := k.check_of_open hpublisher hbus hread hnew
    refine ⟨?_, by rw [hcheck]⟩
    rw [Propagation.perform, hcheck]
    simp only [hread]
    rfl
  idle := fun w outcome houtcome hquiet => by
    rcases k.check_cases with ⟨outcome', hcheck, -⟩ | ⟨contents, bus, n, -, -, -, -, hcheck⟩
    · rw [hcheck]
    · rw [hcheck] at houtcome
      cases houtcome
      exact absurd rfl (hquiet _)
  closed := fun hclosed => by
    refine ⟨?_, fun contents hread hnew => ?_⟩
    · rcases k.check_cases with ⟨outcome, hcheck, -⟩ | ⟨contents, bus, n, -, -, hopen, -⟩
      · rw [hcheck]
      · exact absurd hclosed (not_or.mpr hopen)
    · obtain ⟨failure, hfailure, hcheck⟩ := k.check_of_closed hclosed hread hnew
      exact ⟨failure, hfailure, by rw [hcheck]; rfl⟩
  metrics := k.metrics

/-- **Propagation.**  However the file changes, whenever it is checked, whoever listens and whatever
is closed: each change that a check has published gets to every consumer then attached, once and in
order, and watch and metrics tell of the same publications. -/
theorem run_propagates (address path : String) (files : Files.Tree) (metrics : Metrics)
    (ops : List Operation) :
    Propagates address path metrics (run (watching address path files metrics) ops).1
      (run (watching address path files metrics) ops).2 :=
  ((keeps_watching address path files metrics).run ops).propagates

end EventIntake.Propagation
