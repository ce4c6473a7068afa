import EventIntake.Contract.Exchange
import EventIntake.Proofs.Contract.Families
import Mathlib.Algebra.Ring.Nat

/-!
# Publications

Publishers of one exchange are created, cloned, closed and asked to publish, in any order, while the
files change and the bus is used and closed.  A publication is refused and changes nothing, or each
listener at the address of the family gets it once.

* `publish_eq`, `publishFile_eq`: both kinds of publication hand in contents, or the reason why
  there are none.
* `Keeps`: the exchange agrees with the history.  Every operation keeps it.
* `Keeps.handIn_cases`: a publication is refused and changes nothing, or it is sent.
* `run_publishes`: so it is after every run.
-/

namespace EventIntake.Publishing

/-! ## Operations -/

inductive Operation where
  | create (address : String)
  | clone (i : Nat)
  | publish (i : Nat) (path : String) (contents : ByteArray)
  | update (i : Nat) (path : String)
  | close (i : Nat)
  | edit (change : Files.Tree → Files.Tree)
  | bus (op : Bus.Operation)

def published? (x : Exchange) (i : Nat) (path : String) (contents : ByteArray) : Option Event :=
  (x.publishers[x.family i]?).map fun p => .published i (p.message path contents)

def perform (x : Exchange) : Operation → Exchange × List Event
  | .create address => ((x.addPublisher address).1, [.created (x.addPublisher address).2 address])
  | .clone i =>
    if i < x.members.length then ((x.clonePublisher i).1, [.cloned (x.clonePublisher i).2 i])
    else (x, [])
  | .publish i path contents =>
    match x.publish i path contents with
    | (next, .ok _) => (next, (published? x i path contents).toList)
    | (next, .error _) => (next, [])
  | .update i path =>
    match x.publishFile i path, x.files.read path with
    | (next, .ok _), .ok contents => (next, (published? x i path contents).toList)
    | (next, _), _ => (next, [])
  | .close i => if i < x.members.length then (x.closePublisher i, [.closed i]) else (x, [])
  | .edit change => ({ x with files := change x.files }, [])
  | .bus op =>
    let (bus, answer) := x.bus.perform op
    ({ x with bus }, ((Bus.event? op answer).map Event.bus).toList)

def run (x : Exchange) : List Operation → Exchange × List Event
  | [] => (x, [])
  | op :: rest =>
    let (next, h) := perform x op
    let (last, h') := run next rest
    (last, h ++ h')

/-! ## What a history tells of messages -/

def messages (h : List Event) : List Message :=
  h.filterMap fun
    | .published _ m => some m
    | _ => none

def Event.onBus : Event → Option Bus.Event
  | .published _ m => some (.sent m)
  | .bus e => some e
  | _ => none

def onBus (h : List Event) : List Bus.Event := h.filterMap Event.onBus

def contract (a path : String) (contents : ByteArray) : Message :=
  { address := a, headers := [(sourceHeader, path)], payload := contents }

variable {h h' : List Event} {e : Event} {i j n : Nat} {a path : String} {p : Publisher}

theorem onBus_append (h h' : List Event) : onBus (h ++ h') = onBus h ++ onBus h' :=
  List.filterMap_append

theorem messages_append (h h' : List Event) : messages (h ++ h') = messages h ++ messages h' :=
  List.filterMap_append

theorem bus_mem_onBus {e : Bus.Event} (hsent : ∀ m, e ≠ .sent m) : e ∈ onBus h ↔ .bus e ∈ h := by
  rw [onBus, List.mem_filterMap]
  refine ⟨fun ⟨x, hx, he⟩ => ?_, fun he => ⟨_, he, rfl⟩⟩
  cases x with
  | bus e' =>
    cases he
    exact hx
  | published i m =>
    cases he
    exact absurd rfl (hsent m)
  | created | cloned | closed => cases he

/-! ## Publications -/

/-- What both kinds of publication come to, with the contents or the reason why there are none. -/
def handIn (x : Exchange) (i : Nat) (path : String) (contents : Except ReadError ByteArray) :
    Exchange × Except PublishFailure Nat :=
  match x.publishers[x.family i]? with
  | none => (x, .error .closed)
  | some p =>
    if p.closed then (x, .error .closed)
    else
      match contents with
      | .error reason => (x, .error (.unreadable path reason))
      | .ok contents =>
        match x.bus.send (p.message path contents) with
        | .error reason => (x, .error (.bus reason))
        | .ok (bus, _) =>
          ({ x with bus, metrics := x.metrics.published contents.size }, .ok contents.size)

theorem publish_eq (x : Exchange) (i : Nat) (path : String) (contents : ByteArray) :
    x.publish i path contents = handIn x i path (.ok contents) := by
  simp only [Exchange.publish, Surroundings.publish, handIn]
  cases x.publishers[x.family i]? with
  | none => rfl
  | some p =>
    simp only [Publisher.publish]
    cases p.closed with
    | true => rfl
    | false => cases x.bus.send (p.message path contents) <;> rfl

theorem publishFile_eq (x : Exchange) (i : Nat) (path : String) :
    x.publishFile i path = handIn x i path (x.files.read path) := by
  simp only [Exchange.publishFile, Surroundings.publishFile, handIn]
  cases x.publishers[x.family i]? with
  | none => rfl
  | some p =>
    simp only [Publisher.publishFile, Publisher.publish]
    cases p.closed with
    | true => rfl
    | false =>
      cases x.files.read path with
      | error reason => rfl
      | ok contents =>
        simp only [Bool.false_eq_true, if_false]
        cases x.bus.send (p.message path contents) <;> rfl

/-- How a publication fares.  What is closed is told first, then what cannot be read, and a closed
bus last; none of them changes anything. -/
inductive Fares (h : List Event) (x : Exchange) (i : Nat) (path : String)
    (contents : Except ReadError ByteArray) : Exchange × Except PublishFailure Nat → Prop
  | shut : Shut h i → Fares h x i path contents (x, .error .closed)
  | unreadable {reason : ReadError} : ¬ Shut h i → contents = .error reason →
      Fares h x i path contents (x, .error (.unreadable path reason))
  | busClosed {read : ByteArray} : ¬ Shut h i → contents = .ok read → .bus .closed ∈ h →
      Fares h x i path contents (x, .error (.bus .closed))
  | published {read : ByteArray} {a : String} {bus : Bus} : ¬ Shut h i → contents = .ok read →
      .bus .closed ∉ h → Address h i a → (Bus.listeners a (onBus h)).Nodup →
      (∀ j, bus.pending j = x.bus.pending j ++
        if j ∈ Bus.listeners a (onBus h) then [contract a path read] else []) →
      Fares h x i path contents
        ({ x with
            bus
            metrics := { x.metrics with
              contractsPublished := x.metrics.contractsPublished + 1
              contractBytes := x.metrics.contractBytes + read.size } },
          .ok read.size)

theorem Fares.ok_iff {x : Exchange} {contents : Except ReadError ByteArray}
    {result : Exchange × Except PublishFailure Nat} (fares : Fares h x i path contents result) :
    (∃ size, result.2 = .ok size) ↔
      ¬ Shut h i ∧ .bus .closed ∉ h ∧ ∃ read, contents = .ok read := by
  cases fares with
  | shut hshut => simp [hshut]
  | unreadable hopen hcontents => simp [hcontents]
  | busClosed hopen hcontents hbus => simp [hbus]
  | published hopen hcontents hbus => simp [hopen, hcontents, hbus]

/-! ## The books -/

/-- The exchange is what the events of `h` have left of one that had these metrics. -/
structure Keeps (metrics : Metrics) (x : Exchange) (h : List Event) : Prop where
  bus : x.bus.Keeps (onBus h)
  families : Families x.members x.publishers h
  published : ∀ i m, .published i m ∈ h →
    ∃ a path read, Address h i a ∧ m = contract a path read
  metrics : x.metrics = { metrics with
    contractsPublished := metrics.contractsPublished + (messages h).length
    contractBytes := metrics.contractBytes + ((messages h).map (·.payload.size)).sum }

variable {metrics : Metrics} {x : Exchange}

theorem keeps_start (files : Files.Tree) (metrics : Metrics) :
    Keeps metrics { files, metrics } [] where
  bus := Bus.keeps_empty
  families := .start
  published := nofun
  metrics := rfl

theorem Keeps.exists_publisher (k : Keeps metrics x h) (hi : Member h i) : ∃ p,
    x.members[i]? = some (x.family i) ∧ x.publishers[x.family i]? = some p := by
  obtain ⟨f, p, hf, hp⟩ := k.families.exists_publisher hi
  have hfamily : x.family i = f := by rw [Exchange.family, List.getD_eq_getElem?_getD, hf]; rfl
  rw [hfamily]
  exact ⟨p, hf, hp⟩

/-- **What is handed in changes nothing, or it is sent.** -/
theorem Keeps.handIn_cases (k : Keeps metrics x h) (hi : Member h i) (path : String)
    (contents : Except ReadError ByteArray) :
    (∃ failure, handIn x i path contents = (x, .error failure) ∧
      Fares h x i path contents (x, .error failure)) ∨
    ∃ p read bus n, x.publishers[x.family i]? = some p ∧ Address h i p.address ∧
      contents = .ok read ∧ x.bus.send (p.message path read) = .ok (bus, n) ∧
      handIn x i path contents =
        ({ x with bus, metrics := x.metrics.published read.size }, .ok read.size) ∧
      Fares h x i path contents
        ({ x with bus, metrics := x.metrics.published read.size }, .ok read.size) := by
  obtain ⟨p, hfamily, hp⟩ := k.exists_publisher hi
  have hshut := k.families.shut_iff hfamily hp
  have hclosedBus : x.bus.closed = true ↔ .bus .closed ∈ h :=
    k.bus.closed.trans (bus_mem_onBus nofun)
  cases hclosed : p.closed with
  | true =>
    refine .inl ⟨.closed, ?_, .shut (hshut.mp hclosed)⟩
    simp only [handIn, hp, hclosed, if_true]
  | false =>
    have hopen : ¬ Shut h i := fun hs => Bool.false_ne_true (hclosed.symm.trans (hshut.mpr hs))
    cases contents with
    | error reason =>
      refine .inl ⟨.unreadable path reason, ?_, .unreadable hopen rfl⟩
      simp only [handIn, hp, hclosed, Bool.false_eq_true, if_false]
    | ok read =>
      cases hbus : x.bus.closed with
      | true =>
        have hsend : x.bus.send (p.message path read) = .error .closed := by
          rw [Bus.send, if_pos hbus]
        refine .inl ⟨.bus .closed, ?_, .busClosed hopen rfl (hclosedBus.mp hbus)⟩
        simp only [handIn, hp, hclosed, Bool.false_eq_true, if_false, hsend]
      | false =>
        obtain ⟨bus, hsend, -, hconsumers, -⟩ := k.bus.send_of_open hbus (p.message path read)
        have haddress : Address h i p.address := (k.families.address_iff hfamily hp).mpr rfl
        have hopenBus : .bus .closed ∉ h := fun hmem =>
          Bool.false_ne_true (hbus.symm.trans (hclosedBus.mpr hmem))
        refine .inr ⟨p, read, bus, _, hp, haddress, rfl, hsend, ?_, ?_⟩
        · simp only [handIn, hp, hclosed, Bool.false_eq_true, if_false, hsend]
        · refine .published hopen rfl hopenBus haddress ?_ ?_
          · rw [← k.bus.live hbus]
            exact (k.bus.nodup _).filter _
          · exact k.bus.pending_handOut hbus hconsumers

theorem Keeps.fares (k : Keeps metrics x h) (hi : Member h i) (path : String)
    (contents : Except ReadError ByteArray) :
    Fares h x i path contents (handIn x i path contents) := by
  rcases k.handIn_cases hi path contents with ⟨failure, hresult, hfares⟩ |
    ⟨p, read, bus, n, -, -, -, -, hresult, hfares⟩
  · rwa [hresult]
  · rwa [hresult]

/-! ## What each operation does to the books -/

theorem Keeps.concat (k : Keeps metrics x h) {x' : Exchange} (hmetrics : x'.metrics = x.metrics)
    (hbus : x'.bus.Keeps (onBus h ++ onBus [e]))
    (hfamilies : Families x'.members x'.publishers (h ++ [e]))
    (hquiet : ∀ i m, Event.published i m ≠ e) : Keeps metrics x' (h ++ [e]) := by
  have hmessages : messages (h ++ [e]) = messages h := by
    rw [messages_append]
    cases e with
    | published i m => exact absurd rfl (hquiet i m)
    | created | cloned | closed | bus => exact List.append_nil _
  refine ⟨by rwa [onBus_append], hfamilies, fun i m hmem => ?_, ?_⟩
  · rw [mem_concat_of_ne (hquiet i m)] at hmem
    obtain ⟨a, path, read, haddress, hm⟩ := k.published i m hmem
    exact ⟨a, path, read, haddress.mono (List.subset_append_left _ _), hm⟩
  · rw [hmetrics, hmessages]
    exact k.metrics

theorem Keeps.publish (k : Keeps metrics x h) {p : Publisher}
    (haddress : Address h i p.address) {read : ByteArray} {bus : Bus}
    (hsend : x.bus.send (p.message path read) = .ok (bus, n)) :
    Keeps metrics { x with bus, metrics := x.metrics.published read.size }
      (h ++ [.published i (p.message path read)]) := by
  have hsub := List.subset_append_left h [.published i (p.message path read)]
  refine ⟨?_, k.families.concat nofun nofun nofun, fun j m hmem => ?_, ?_⟩
  · rw [onBus_append]
    exact k.bus.send hsend
  · rcases List.mem_append.mp hmem with hmem | hmem
    · obtain ⟨a, path', read', ha, hm⟩ := k.published j m hmem
      exact ⟨a, path', read', ha.mono hsub, hm⟩
    · cases List.mem_singleton.mp hmem
      exact ⟨p.address, path, read, haddress.mono hsub, rfl⟩
  · rw [messages_append]
    simp only [k.metrics, Metrics.published, messages, List.filterMap_cons, List.filterMap_nil,
      List.length_append, List.length_singleton, List.map_append, List.map_singleton,
      List.sum_append, List.sum_singleton, Nat.add_assoc]
    rfl

theorem Keeps.handIn_of_not_member (k : Keeps metrics x h) (hi : ¬ Member h i)
    (contents : Except ReadError ByteArray) : handIn x i path contents = (x, .error .closed) := by
  have hout : x.members[i]? = none := by
    rw [List.getElem?_eq_none_iff, ← Nat.not_lt, k.families.known]
    exact hi
  have hnone : x.publishers[x.family i]? = none := by
    rw [Exchange.family, List.getD_eq_getElem?_getD, hout]
    exact List.getElem?_eq_none (Nat.le_refl _)
  rw [handIn, hnone]

theorem Keeps.handIn_step (k : Keeps metrics x h) (i : Nat) (path : String)
    (contents : Except ReadError ByteArray) :
    (∃ failure, handIn x i path contents = (x, .error failure)) ∨
    ∃ next read, contents = .ok read ∧ handIn x i path contents = (next, .ok read.size) ∧
      Keeps metrics next (h ++ (published? x i path read).toList) := by
  by_cases hi : Member h i
  · rcases k.handIn_cases hi path contents with ⟨failure, hresult, -⟩ |
      ⟨p, read, bus, n, hp, haddress, rfl, hsend, hresult, -⟩
    · exact .inl ⟨failure, hresult⟩
    · refine .inr ⟨_, read, rfl, hresult, ?_⟩
      rw [published?, hp]
      exact k.publish haddress hsend
  · exact .inl ⟨.closed, k.handIn_of_not_member hi contents⟩

/-- **Every operation keeps the books.** -/
theorem Keeps.perform (k : Keeps metrics x h) (op : Operation) :
    Keeps metrics (perform x op).1 (h ++ (perform x op).2) := by
  cases op with
  | create a =>
    refine k.concat rfl ?_ (k.families.create a) nofun
    rw [show onBus [.created _ a] = [] from rfl, List.append_nil]
    exact k.bus
  | clone i =>
    rw [Publishing.perform]
    split
    · case isTrue hi =>
      have hfamily := List.getElem?_eq_getElem hi
      refine k.concat rfl ?_ ?_ nofun
      · rw [show onBus [.cloned _ i] = [] from rfl, List.append_nil]
        exact k.bus
      · rw [Exchange.clonePublisher, hfamily]
        exact k.families.clone hfamily
    · rwa [List.append_nil]
  | publish i path contents =>
    simp only [Publishing.perform, publish_eq]
    rcases k.handIn_step i path (.ok contents) with ⟨failure, hresult⟩ |
      ⟨next, read, hread, hresult, hkeeps⟩
    · rw [hresult]
      simpa using k
    · cases hread
      rw [hresult]
      exact hkeeps
  | update i path =>
    simp only [Publishing.perform, publishFile_eq]
    rcases k.handIn_step i path (x.files.read path) with ⟨failure, hresult⟩ |
      ⟨next, read, hread, hresult, hkeeps⟩
    · rw [hresult]
      simpa using k
    · rw [hresult, hread]
      exact hkeeps
  | close i =>
    rw [Publishing.perform]
    split
    · case isTrue hi =>
      have hfamily := List.getElem?_eq_getElem hi
      refine k.concat rfl ?_ ?_ nofun
      · rw [show onBus [.closed i] = [] from rfl, List.append_nil]
        exact k.bus
      · rw [Exchange.closePublisher, Exchange.family, List.getD_eq_getElem?_getD, hfamily]
        exact k.families.close hfamily
    · rwa [List.append_nil]
  | edit change =>
    rw [Publishing.perform, List.append_nil]
    exact ⟨k.bus, k.families, k.published, k.metrics⟩
  | bus op =>
    have hbus := k.bus.perform op
    simp only [Publishing.perform]
    cases hevent : Bus.event? op (x.bus.perform op).2 with
    | none =>
      rw [hevent] at hbus
      simp only [Option.toList_none, List.append_nil] at hbus
      simp only [Option.map_none, Option.toList_none, List.append_nil]
      exact ⟨hbus, k.families, k.published, k.metrics⟩
    | some e =>
      rw [hevent] at hbus
      exact k.concat rfl hbus (k.families.concat nofun nofun nofun) nofun

/-- **And so does every run of them.** -/
theorem Keeps.run (k : Keeps metrics x h) (ops : List Operation) :
    Keeps metrics (run x ops).1 (h ++ (run x ops).2) := by
  induction ops generalizing x h with
  | nil => rwa [Publishing.run, List.append_nil]
  | cons op rest ih =>
    have hrest := ih (k.perform op)
    rw [List.append_assoc] at hrest
    exact hrest

/-! ## What a run publishes -/

/-- What holds of the publishers and the bus after the events of `h`. -/
structure Publishes (metrics : Metrics) (x : Exchange) (h : List Event) : Prop where
  /-- A publication succeeds as long as neither its family nor the bus is closed. -/
  publish : ∀ i, Member h i → ∀ path contents,
    Fares h x i path (.ok contents) (x.publish i path contents) ∧
    ((∃ size, (x.publish i path contents).2 = .ok size) ↔ ¬ Shut h i ∧ .bus .closed ∉ h)
  /-- An update does so if there is something to read besides. -/
  update : ∀ i, Member h i → ∀ path,
    Fares h x i path (x.files.read path) (x.publishFile i path) ∧
    ((∃ size, (x.publishFile i path).2 = .ok size) ↔
      ¬ Shut h i ∧ .bus .closed ∉ h ∧ ∃ contents, x.files.read path = .ok contents)
  /-- Publishers that were created apart are never related. -/
  apart : ∀ i a j b, .created i a ∈ h → .created j b ∈ h → Kin h i j → i = j
  address : ∀ i, Member h i → ∃ a, ∀ b, Address h i b ↔ b = a
  published : ∀ i m, .published i m ∈ h →
    ∃ a path contents, Address h i a ∧ m = contract a path contents
  /-- What was sent to its address while it was attached is what a consumer has received, lost when
  it was dropped, or still has. -/
  delivery : ∀ pre j a post, h = pre ++ .bus (.attached j a) :: post →
    Bus.receivedBy j (onBus h) ++ Bus.discardedBy j (onBus h) ++ x.bus.pending j =
      Bus.owed j a (onBus post)
  /-- The listeners at an address are the consumers attached there and not dropped. -/
  listens : ∀ pre j a post, h = pre ++ .bus (.attached j a) :: post →
    ∀ a', j ∈ Bus.listeners a' (onBus h) ↔ a' = a ∧ Bus.isDropped j (onBus post) = false
  metrics : x.metrics = { metrics with
    contractsPublished := metrics.contractsPublished + (messages h).length
    contractBytes := metrics.contractBytes + ((messages h).map (·.payload.size)).sum }

/-- What an attached consumer has to do with the bus. -/
theorem Keeps.account (k : Keeps metrics x h) {pre post : List Event} {j : Nat} {a : String}
    (hsplit : h = pre ++ .bus (.attached j a) :: post) :
    x.bus.Account (onBus h) j a (onBus post) := by
  refine k.bus.account (onBus pre) j a (onBus post) ?_
  rw [hsplit, onBus_append]
  rfl

theorem Keeps.publishes (k : Keeps metrics x h) : Publishes metrics x h where
  publish := fun i hi path contents => by
    have hfares := k.fares hi path (.ok contents)
    rw [publish_eq]
    exact ⟨hfares, hfares.ok_iff.trans (by simp)⟩
  update := fun i hi path => by
    have hfares := k.fares hi path (x.files.read path)
    rw [publishFile_eq]
    exact ⟨hfares, hfares.ok_iff⟩
  apart := fun i a j b hi hj hkin => k.families.apart hi hj hkin
  address := fun i hi => by
    obtain ⟨p, hfamily, hp⟩ := k.exists_publisher hi
    exact ⟨p.address, fun b => k.families.address_iff hfamily hp⟩
  published := k.published
  delivery := fun pre j a post hsplit => (k.account hsplit).balance
  listens := fun pre j a post hsplit => (k.account hsplit).listens
  metrics := k.metrics

/-- **Publications.**  However publishers are created, cloned, closed and asked to publish, whatever
becomes of the files and of the bus: a publication depends on the handles of its own family only, it
gets to every listener once with its bytes and its path and is counted, and when it is refused
nothing has changed. -/
theorem run_publishes (files : Files.Tree) (metrics : Metrics) (ops : List Operation) :
    Publishes metrics (run { files, metrics } ops).1 (run { files, metrics } ops).2 :=
  ((keeps_start files metrics).run ops).publishes

end EventIntake.Publishing
