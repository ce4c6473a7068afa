import EventIntake.Messaging.Bus
import Mathlib.Data.List.Basic

/-!
# Delivery

Everything that happens on a bus is an `Event`, and a run of operations leaves a history of them.
The history alone tells what each consumer is owed: `Bus.owed` are the messages sent to its address
from when it was attached until it is dropped.

* `Bus.handOut_snd`, `Bus.getElem?_handOut`: handing a message out reaches the consumers of the
  route that are not dropped, each once, strikes out the others, and changes no other consumer.
* `Bus.Keeps`: the routes, the buffers and the history agree.  Every event keeps it.
* `Bus.run_delivers`: after any run what a consumer received, then what was discarded with it, then
  what it still has are exactly the messages it is owed.
-/

namespace EventIntake.Bus

/-! ## Operations and events -/

/-- What can be asked of a bus and of its consumers. -/
inductive Operation where
  | attach (address : String)
  | send (m : Message)
  | receive (i : Nat)
  | drop (i : Nat)
  | close

inductive Answer where
  | attached (i : Nat)
  | sent (reached : Nat)
  | refused (reason : BusRefusal)
  | received (r : Received)
  | discarded (messages : List Message)
  | closed

def pending (b : Bus) (i : Nat) : List Message := ((b.consumers[i]?).map Consumer.buffer).getD []

def perform (b : Bus) : Operation → Bus × Answer
  | .attach address =>
    match b.attach address with
    | .ok (b, i) => (b, .attached i)
    | .error e => (b, .refused e)
  | .send m =>
    match b.send m with
    | .ok (b, n) => (b, .sent n)
    | .error e => (b, .refused e)
  | .receive i => ((b.receive i).1, .received (b.receive i).2)
  | .drop i => (b.drop i, .discarded (b.pending i))
  | .close => (b.close, .closed)

inductive Event where
  | attached (i : Nat) (address : String)
  | sent (m : Message)
  | received (i : Nat) (m : Message)
  | dropped (i : Nat) (discarded : List Message)
  | closed

/-- What an operation that was answered has done, if it has done anything. -/
def event? : Operation → Answer → Option Event
  | .attach address, .attached i => some (.attached i address)
  | .send m, .sent _ => some (.sent m)
  | .receive i, .received (.message m) => some (.received i m)
  | .drop i, .discarded l => some (.dropped i l)
  | .close, .closed => some .closed
  | _, _ => none

def run (b : Bus) : List Operation → Bus × List Event
  | [] => (b, [])
  | op :: rest =>
    let (next, answer) := b.perform op
    let (last, h) := run next rest
    (last, (event? op answer).toList ++ h)

/-! ## Whether a bus is closed -/

theorem close_closed (b : Bus) : b.close.closed = true := by
  unfold close
  split
  · case isTrue h => exact h
  · rfl

theorem send_closed {b b' : Bus} {m : Message} {n : Nat} (h : b.send m = .ok (b', n)) :
    b'.closed = b.closed := by
  unfold send at h
  split at h
  · cases h
  · split at h <;>
    · cases h
      rfl

theorem attach_closed {b b' : Bus} {address : String} {i : Nat}
    (h : b.attach address = .ok (b', i)) : b'.closed = b.closed := by
  unfold attach at h
  split at h
  · cases h
  · cases h
    rfl

theorem receive_closed (b : Bus) (i : Nat) : (b.receive i).1.closed = b.closed := by
  unfold receive
  split
  · rfl
  · split
    · rfl
    · split <;> rfl

theorem perform_closed (b : Bus) {op : Operation} (hop : op ≠ .close) :
    (b.perform op).1.closed = b.closed := by
  cases op with
  | attach address =>
    simp only [perform]
    split
    · case h_1 h => exact attach_closed h
    · rfl
  | send m =>
    simp only [perform]
    split
    · case h_1 h => exact send_closed h
    · rfl
  | receive i => exact b.receive_closed i
  | drop i => rfl
  | close => exact absurd rfl hop

/-! ## What a history tells -/

def sentTo (address : String) (h : List Event) : List Message :=
  h.filterMap fun
    | .sent m => if m.address = address then some m else none
    | _ => none

def receivedBy (i : Nat) (h : List Event) : List Message :=
  h.filterMap fun
    | .received j m => if j = i then some m else none
    | _ => none

def discardedBy (i : Nat) (h : List Event) : List Message :=
  h.flatMap fun
    | .dropped j l => if j = i then l else []
    | _ => []

def Event.isDrop (i : Nat) : Event → Bool
  | .dropped j _ => j == i
  | _ => false

/-- Whether an event is none that a closed bus refuses. -/
def Event.isQuiet : Event → Bool
  | .attached .. | .sent _ => false
  | _ => true

def isDropped (i : Nat) (h : List Event) : Bool := h.any (·.isDrop i)

/-- The messages that were sent to an address until consumer `i` was dropped. -/
def owed (i : Nat) (address : String) (h : List Event) : List Message :=
  sentTo address (h.takeWhile fun e => !e.isDrop i)

def listen (address : String) (l : List Nat) : Event → List Nat
  | .attached i a => if a = address then l ++ [i] else l
  | .dropped i _ => l.filter (· != i)
  | _ => l

/-- The consumers that are attached to an address and not dropped. -/
def listeners (address : String) (h : List Event) : List Nat := h.foldl (listen address) []

variable {h post : List Event} {i j : Nat} {address : String}

theorem receivedBy_concat (i : Nat) (h : List Event) (e : Event) :
    receivedBy i (h ++ [e]) = receivedBy i h ++ receivedBy i [e] := List.filterMap_append

theorem discardedBy_concat (i : Nat) (h : List Event) (e : Event) :
    discardedBy i (h ++ [e]) = discardedBy i h ++ discardedBy i [e] := List.flatMap_append

theorem isDropped_concat (i : Nat) (h : List Event) (e : Event) :
    isDropped i (h ++ [e]) = (isDropped i h || e.isDrop i) := by
  simp [isDropped]

theorem listeners_concat (address : String) (h : List Event) (e : Event) :
    listeners address (h ++ [e]) = listen address (listeners address h) e := by
  simp [listeners]

/-- A further message is owed to a consumer that is not dropped. -/
theorem owed_concat (i : Nat) (address : String) (h : List Event) (e : Event) :
    owed i address (h ++ [e]) =
      owed i address h ++ if isDropped i h then [] else sentTo address [e] := by
  induction h with
  | nil =>
    cases e with
    | dropped j l => by_cases hj : j = i <;> simp [owed, Event.isDrop, isDropped, sentTo, hj]
    | _ => simp [owed, Event.isDrop, isDropped, sentTo]
  | cons f h ih =>
    cases hf : f.isDrop i with
    | true => simp [owed, isDropped, hf, sentTo]
    | false =>
      have hsent : ∀ l : List Event,
          sentTo address (f :: l) = sentTo address [f] ++ sentTo address l :=
        fun l => List.filterMap_append (l := [f])
      simp only [owed, isDropped] at ih
      simp only [owed, isDropped, List.cons_append, List.takeWhile_cons, hf, Bool.not_false,
        if_true, List.any_cons, Bool.false_or]
      rw [hsent (h ++ [e] |>.takeWhile _), ih, hsent (h.takeWhile _), List.append_assoc]
      rfl

theorem split_concat {pre h post : List Event} {e x : Event}
    (hsplit : h ++ [e] = pre ++ x :: post) :
    (pre = h ∧ x = e ∧ post = []) ∨ ∃ post', post = post' ++ [e] ∧ h = pre ++ x :: post' := by
  rcases List.eq_nil_or_concat post with rfl | ⟨post', f, rfl⟩
  · obtain ⟨rfl, hlast⟩ := List.append_inj' hsplit rfl
    cases hlast
    exact .inl ⟨rfl, rfl, rfl⟩
  · rw [List.concat_eq_append, ← List.cons_append, ← List.append_assoc] at hsplit
    obtain ⟨rfl, hlast⟩ := List.append_inj' hsplit rfl
    cases hlast
    exact .inr ⟨post', List.concat_eq_append .., rfl⟩

/-! ## Handing a message out -/

def isLive (consumers : List Consumer) (i : Nat) : Bool := (consumers[i]?).any fun c => !c.dropped

theorem isLive_eq_true {consumers : List Consumer} (hlive : isLive consumers i = true) :
    ∃ c, consumers[i]? = some c ∧ c.dropped = false := by
  rw [isLive, Option.any_eq_true] at hlive
  obtain ⟨c, hc, hkept⟩ := hlive
  exact ⟨c, hc, by simpa using hkept⟩

theorem isLive_set_take {consumers : List Consumer} {c : Consumer} (hc : consumers[i]? = some c)
    (m : Message) (j : Nat) : isLive (consumers.set i (c.take m)) j = isLive consumers j := by
  by_cases hj : i = j
  · subst hj
    rw [isLive, isLive, List.getElem?_set_self (List.getElem?_eq_some_iff.mp hc).1, hc]
    rfl
  · rw [isLive, isLive, List.getElem?_set_ne hj]

/-- **Those that take a message are the consumers of the route that are not dropped.** -/
theorem handOut_snd (m : Message) (consumers : List Consumer) (route : List Nat) :
    (handOut m consumers route).2 = route.filter (isLive consumers) := by
  induction route generalizing consumers with
  | nil => rfl
  | cons i rest ih =>
    rw [handOut]
    split
    · case h_1 hnone => rw [ih, List.filter_cons_of_neg (by simp [isLive, hnone])]
    · case h_2 c hc =>
      by_cases hdropped : c.dropped = true
      · rw [if_pos hdropped, ih, List.filter_cons_of_neg (by simp [isLive, hc, hdropped])]
      · rw [if_neg hdropped, List.filter_cons_of_pos (by simp [isLive, hc, hdropped])]
        change i :: (handOut m (consumers.set i (c.take m)) rest).2 = _
        rw [ih]
        congr 2
        exact funext (isLive_set_take hc m)

/-- **Each of them takes it once, and no other consumer is changed.** -/
theorem getElem?_handOut (m : Message) (consumers : List Consumer) {route : List Nat}
    (hroute : route.Nodup) (j : Nat) : (handOut m consumers route).1[j]? =
      (consumers[j]?).map fun c => if j ∈ route ∧ c.dropped = false then c.take m else c := by
  induction route generalizing consumers with
  | nil => simp [handOut]
  | cons i rest ih =>
    obtain ⟨hi, hrest⟩ := List.nodup_cons.mp hroute
    rw [handOut]
    split
    · case h_1 hnone =>
      rw [ih _ hrest]
      by_cases hj : j = i
      · subst hj
        simp [hnone]
      · simp [hj]
    · case h_2 c hc =>
      by_cases hdropped : c.dropped = true
      · rw [if_pos hdropped, ih _ hrest]
        by_cases hj : j = i
        · subst hj
          simp [hc, hdropped]
        · simp [hj]
      · rw [if_neg hdropped]
        change (handOut m (consumers.set i (c.take m)) rest).1[j]? = _
        rw [ih _ hrest]
        by_cases hj : j = i
        · subst hj
          rw [List.getElem?_set_self (List.getElem?_eq_some_iff.mp hc).1, hc]
          simp [hi, hdropped]
        · rw [List.getElem?_set_ne (Ne.symm hj)]
          simp [hj]

theorem length_handOut (m : Message) (consumers : List Consumer) (route : List Nat) :
    (handOut m consumers route).1.length = consumers.length := by
  induction route generalizing consumers with
  | nil => rfl
  | cons i rest ih =>
    rw [handOut]
    split
    · exact ih _
    · split
      · exact ih _
      · exact (ih _).trans List.length_set

theorem isLive_handOut (m : Message) (consumers : List Consumer) {route : List Nat}
    (hroute : route.Nodup) (j : Nat) :
    isLive (handOut m consumers route).1 j = isLive consumers j := by
  rw [isLive, isLive, getElem?_handOut m consumers hroute]
  cases consumers[j]? with
  | none => rfl
  | some c =>
    simp only [Option.map_some, Option.any_some]
    split <;> rfl

/-! ## The books -/

/-- How consumer `i` of an address stands after `h`, of which `post` has happened since it was
attached. -/
structure Account (b : Bus) (h : List Event) (i : Nat) (address : String) (post : List Event) :
    Prop where
  lt : i < b.consumers.length
  live : isLive b.consumers i = !isDropped i post
  kept : isDropped i post = false → discardedBy i h = []
  balance : receivedBy i h ++ discardedBy i h ++ b.pending i = owed i address post
  listens : ∀ a, i ∈ listeners a h ↔ a = address ∧ isDropped i post = false

/-- The bus is what the events of `h` have left of it. -/
structure Keeps (b : Bus) (h : List Event) : Prop where
  closed : b.closed = true ↔ Event.closed ∈ h
  routes : b.closed = true → b.routes = []
  nodup : ∀ a, (b.routes.find a).Nodup
  bound : ∀ a, ∀ i ∈ b.routes.find a, i < b.consumers.length
  live : b.closed = false → ∀ a, (b.routes.find a).filter (isLive b.consumers) = listeners a h
  fresh : ∀ i, b.consumers.length ≤ i →
    receivedBy i h = [] ∧ discardedBy i h = [] ∧ ∀ a, i ∉ listeners a h
  account : ∀ pre i a post, h = pre ++ .attached i a :: post → b.Account h i a post
  quiet : ∀ pre post, h = pre ++ .closed :: post → ∀ e ∈ post, e.isQuiet = true

variable {b b' : Bus} {e : Event}

theorem keeps_empty : Keeps {} [] where
  closed := by simp
  routes := fun _ => rfl
  nodup := fun _ => List.nodup_nil
  bound := fun _ i hi => by cases hi
  live := fun _ _ => rfl
  fresh := fun _ _ => ⟨rfl, rfl, fun _ hi => by cases hi⟩
  account := fun pre i a post h => by simp at h
  quiet := fun pre post h => by simp at h

theorem Keeps.quiet_concat (k : b.Keeps h) (he : b.closed = true → e.isQuiet = true) (pre post)
    (hsplit : h ++ [e] = pre ++ .closed :: post) : ∀ x ∈ post, x.isQuiet = true := by
  rcases split_concat hsplit with ⟨-, -, rfl⟩ | ⟨post, rfl, hbefore⟩
  · intro x hx
    cases hx
  · intro x hx
    rcases List.mem_append.mp hx with hx | hx
    · exact k.quiet pre post hbefore x hx
    · rw [List.mem_singleton.mp hx]
      exact he (k.closed.mpr (by simp [hbefore]))

theorem mem_listen {l : List Nat} (hnew : ∀ a, e ≠ .attached i a) :
    i ∈ listen address l e ↔ i ∈ l ∧ e.isDrop i = false := by
  cases e with
  | attached j a =>
    have hne : i ≠ j := fun hij => hnew a (hij ▸ rfl)
    simp only [listen, Event.isDrop, and_true]
    split
    · simp [hne]
    · rfl
  | dropped j l' =>
    rw [listen, List.mem_filter, Event.isDrop, bne_iff_ne, beq_eq_false_iff_ne, ne_comm]
  | _ => simp [listen, Event.isDrop]

theorem discardedBy_of_not_drop (he : e.isDrop i = false) : discardedBy i [e] = [] := by
  cases e with
  | dropped j l =>
    have hj : j ≠ i := by simpa [Event.isDrop] using he
    simp [discardedBy, hj]
  | _ => rfl

theorem Account.concat {a : String} (acc : b.Account h i a post) (hnew : ∀ a, e ≠ .attached i a)
    (hlt : b.consumers.length ≤ b'.consumers.length)
    (hlive : isLive b'.consumers i = (isLive b.consumers i && !e.isDrop i))
    (hbalance : receivedBy i (h ++ [e]) ++ discardedBy i (h ++ [e]) ++ b'.pending i =
      owed i a post ++ if isDropped i post then [] else sentTo a [e]) :
    b'.Account (h ++ [e]) i a (post ++ [e]) where
  lt := Nat.lt_of_lt_of_le acc.lt hlt
  live := by rw [hlive, acc.live, isDropped_concat, Bool.not_or]
  kept := fun hkept => by
    rw [isDropped_concat, Bool.or_eq_false_iff] at hkept
    rw [discardedBy_concat, acc.kept hkept.1, discardedBy_of_not_drop hkept.2]
    rfl
  balance := by rw [hbalance, owed_concat]
  listens := fun a' => by
    rw [listeners_concat, mem_listen hnew, acc.listens, isDropped_concat, Bool.or_eq_false_iff,
      and_assoc]

/-- An event of the consumers that are attached already, and what it has to leave in order. -/
theorem Keeps.carry (k : b.Keeps h) (hnew : ∀ i a, e ≠ .attached i a)
    (hquiet : b.closed = true → e.isQuiet = true)
    (hclosed : b'.closed = true ↔ b.closed = true ∨ e = .closed)
    (hroutes : b'.closed = true → b'.routes = [])
    (hsub : ∀ a, (b'.routes.find a).Sublist (b.routes.find a))
    (hlength : b'.consumers.length = b.consumers.length)
    (hlive : ∀ i, isLive b'.consumers i = (isLive b.consumers i && !e.isDrop i))
    (hlisten : b'.closed = false → ∀ a,
      (b'.routes.find a).filter (isLive b'.consumers) = listen a (listeners a h) e)
    (hown : ∀ i, b.consumers.length ≤ i → receivedBy i [e] = [] ∧ discardedBy i [e] = [])
    (hbalance : ∀ i a post, b.Account h i a post →
      receivedBy i (h ++ [e]) ++ discardedBy i (h ++ [e]) ++ b'.pending i =
        owed i a post ++ if isDropped i post then [] else sentTo a [e]) :
    b'.Keeps (h ++ [e]) where
  closed := by rw [hclosed, k.closed, List.mem_append, List.mem_singleton, eq_comm (a := e)]
  routes := hroutes
  nodup := fun a => (k.nodup a).sublist (hsub a)
  bound := fun a i hi => hlength ▸ k.bound a i ((hsub a).subset hi)
  live := fun hopen a => by rw [hlisten hopen, listeners_concat]
  fresh := fun i hi => by
    obtain ⟨hreceived, hdiscarded, hout⟩ := k.fresh i (hlength ▸ hi)
    obtain ⟨hreceived', hdiscarded'⟩ := hown i (hlength ▸ hi)
    rw [receivedBy_concat, discardedBy_concat, hreceived, hdiscarded, hreceived', hdiscarded']
    refine ⟨rfl, rfl, fun a hi => ?_⟩
    rw [listeners_concat, mem_listen (hnew i)] at hi
    exact hout a hi.1
  account := fun pre i a post hsplit => by
    rcases split_concat hsplit with ⟨rfl, hlast, rfl⟩ | ⟨post, rfl, hbefore⟩
    · exact absurd hlast.symm (hnew i a)
    · have acc := k.account pre i a post hbefore
      exact acc.concat (hnew i) (Nat.le_of_eq hlength.symm) (hlive i) (hbalance i a post acc)
  quiet := k.quiet_concat hquiet

/-! ## What each operation does to the books -/

theorem pending_attach (consumers : List Consumer) (i : Nat) :
    (((consumers ++ [({} : Consumer)])[i]?).map Consumer.buffer).getD [] =
      ((consumers[i]?).map Consumer.buffer).getD [] := by
  by_cases hi : i < consumers.length
  · rw [List.getElem?_append_left hi]
  · rw [List.getElem?_append_right (Nat.le_of_not_lt hi),
      List.getElem?_eq_none (Nat.le_of_not_lt hi)]
    cases i - consumers.length <;> rfl

theorem attach_of_open (hopen : b.closed = false) (a : String) :
    ∃ b', b.attach a = .ok (b', b.consumers.length) ∧ ∀ j, b'.pending j = b.pending j := by
  simp only [Bus.attach, hopen, Bool.false_eq_true, if_false]
  exact ⟨_, rfl, pending_attach b.consumers⟩

theorem isLive_attach {consumers : List Consumer} (hi : i < consumers.length) :
    isLive (consumers ++ [({} : Consumer)]) i = isLive consumers i := by
  rw [isLive, isLive, List.getElem?_append_left hi]

theorem Keeps.attach (k : b.Keeps h) (hattach : b.attach address = .ok (b', i)) :
    b'.Keeps (h ++ [.attached i address]) := by
  unfold Bus.attach at hattach
  split at hattach
  · cases hattach
  · case isFalse hopen =>
    cases hattach
    have hopen : b.closed = false := Bool.eq_false_iff.mpr hopen
    refine ⟨?_, ?_, fun a => ?_, fun a j hj => ?_, fun _ a => ?_, fun j hj => ?_,
      fun pre j a post hsplit => ?_, k.quiet_concat (by simp [hopen])⟩
    · simpa using k.closed
    · intro hclosed
      simp [hopen] at hclosed
    · simp only [Routes.find_change]
      split
      · refine List.nodup_append.mpr ⟨k.nodup _, by simp, ?_⟩
        intro x hx y hy
        rw [List.mem_singleton.mp hy]
        exact Nat.ne_of_lt (k.bound _ x hx)
      · exact k.nodup a
    · simp only [Routes.find_change] at hj
      rw [List.length_append, List.length_singleton]
      split at hj
      · rcases List.mem_append.mp hj with hj | hj
        · exact Nat.lt_succ_of_lt (k.bound _ j hj)
        · rw [List.mem_singleton.mp hj]
          exact Nat.lt_succ_self _
      · exact Nat.lt_succ_of_lt (k.bound _ j hj)
    · -- no route has the new number yet, so the others listen where they did
      have hsame : ∀ a, (b.routes.find a).filter (isLive (b.consumers ++ [({} : Consumer)])) =
          listeners a h := by
        intro a
        rw [← k.live hopen a]
        exact List.filter_congr fun j hj => isLive_attach (k.bound a j hj)
      have hlast : isLive (b.consumers ++ [({} : Consumer)]) b.consumers.length = true := by
        simp [isLive]
      rw [listeners_concat, listen]
      simp only [Routes.find_change]
      by_cases ha : a = address
      · subst ha
        rw [if_pos rfl, if_pos rfl, List.filter_append, hsame]
        simp [hlast]
      · rw [if_neg ha, if_neg (Ne.symm ha), hsame]
    · rw [List.length_append, List.length_singleton] at hj
      obtain ⟨hreceived, hdiscarded, hlisten⟩ := k.fresh j (Nat.le_of_succ_le hj)
      refine ⟨?_, ?_, fun a => ?_⟩
      · rw [receivedBy_concat, hreceived]
        rfl
      · rw [discardedBy_concat, hdiscarded]
        rfl
      · rw [listeners_concat, listen]
        split
        · simp only [List.mem_append, List.mem_singleton, not_or]
          exact ⟨hlisten a, (Nat.ne_of_lt hj).symm⟩
        · exact hlisten a
    · rcases split_concat hsplit with ⟨rfl, hlast, rfl⟩ | ⟨post, rfl, hbefore⟩
      · -- the new consumer, whose books are empty
        cases hlast
        obtain ⟨hreceived, hdiscarded, hlisten⟩ := k.fresh _ (Nat.le_refl b.consumers.length)
        refine ⟨by simp, by simp [isLive, isDropped], fun _ => ?_, ?_, fun a => ?_⟩
        · rw [discardedBy_concat, hdiscarded]
          rfl
        · rw [receivedBy_concat, discardedBy_concat, hreceived, hdiscarded]
          simp [receivedBy, discardedBy, pending, owed, sentTo]
        · rw [listeners_concat, listen]
          split
          · case isTrue ha => simp [ha, isDropped]
          · case isFalse ha => simp [hlisten a, Ne.symm ha]
      · have acc := k.account pre j a post hbefore
        have hne : b.consumers.length ≠ j := (Nat.ne_of_lt acc.lt).symm
        refine acc.concat (fun a' h' => ?_) (by simp) ?_ ?_
        · cases h'
          exact hne rfl
        · rw [isLive_attach acc.lt]
          simp [Event.isDrop]
        · rw [← acc.balance, receivedBy_concat, discardedBy_concat]
          have hpending : Bus.pending { b with
              consumers := b.consumers ++ [{}]
              routes := b.routes.change address (· ++ [b.consumers.length]) } j = b.pending j :=
            pending_attach b.consumers j
          rw [hpending]
          simp [receivedBy, discardedBy, sentTo]

theorem pending_eq_nil (hlt : b.consumers.length ≤ i) : b.pending i = [] := by
  rw [pending, List.getElem?_eq_none hlt]
  rfl

/-- **A message is handed to the consumers of its address that are attached and not dropped.** -/
theorem Keeps.send_of_open (k : b.Keeps h) (hopen : b.closed = false) (m : Message) :
    ∃ b', b.send m = .ok (b', (listeners m.address h).length) ∧ b'.closed = false ∧
      b'.consumers = (handOut m b.consumers (b.routes.find m.address)).1 ∧
      ∀ a, b'.routes.find a = if a = m.address then listeners m.address h else b.routes.find a := by
  have hlive := k.live hopen m.address
  simp only [Bus.send, hopen, Bool.false_eq_true, if_false]
  cases hroute : b.routes.lookup m.address with
  | none =>
    have hfind : b.routes.find m.address = [] := by rw [Routes.find, hroute, Option.getD_none]
    rw [hfind] at hlive
    refine ⟨b, by rw [← hlive]; rfl, hopen, by rw [hfind]; rfl, fun a => ?_⟩
    split
    · case isTrue ha => rw [ha, hfind, ← hlive]; rfl
    · rfl
  | some route =>
    have hfind : b.routes.find m.address = route := by rw [Routes.find, hroute, Option.getD_some]
    have htook : (handOut m b.consumers route).2 = listeners m.address h := by
      rw [handOut_snd, ← hfind, hlive]
    refine ⟨{ b with
      consumers := (handOut m b.consumers route).1
      routes := b.routes.change m.address fun _ => (handOut m b.consumers route).2 },
      by rw [← htook, hopen], hopen, by rw [hfind], fun a => ?_⟩
    rw [Routes.find_change, htook]

/-- A message adds to what its listeners have, and to what no other consumer has. -/
theorem Keeps.pending_handOut (k : b.Keeps h) (hopen : b.closed = false) {m : Message}
    (hb' : b'.consumers = (handOut m b.consumers (b.routes.find m.address)).1) (j : Nat) :
    b'.pending j = b.pending j ++ if j ∈ listeners m.address h then [m] else [] := by
  rw [pending, pending, hb', getElem?_handOut m _ (k.nodup _), ← k.live hopen]
  cases hj : b.consumers[j]? with
  | none => simp [isLive, hj]
  | some c =>
    by_cases hmem : j ∈ b.routes.find m.address ∧ c.dropped = false
    · simp [hmem, isLive, hj, Consumer.take]
    · have hout : j ∉ (b.routes.find m.address).filter (isLive b.consumers) := by
        simpa [List.mem_filter, isLive, hj] using hmem
      rw [if_neg hout, List.append_nil]
      simp [hmem]

theorem Keeps.send (k : b.Keeps h) {m : Message} {n : Nat} (hsend : b.send m = .ok (b', n)) :
    b'.Keeps (h ++ [.sent m]) := by
  have hopen : b.closed = false := by
    by_contra hclosed
    rw [Bus.send, if_pos (by simpa using hclosed)] at hsend
    cases hsend
  obtain ⟨c, hc, hcopen, hconsumers, hfind⟩ := k.send_of_open hopen m
  obtain ⟨rfl, -⟩ := Prod.mk.inj (Except.ok.inj (hc.symm.trans hsend))
  have hlive : ∀ i, isLive c.consumers i = isLive b.consumers i := fun i => by
    rw [hconsumers, isLive_handOut m _ (k.nodup _)]
  refine k.carry (fun _ _ he => by cases he) (by simp [hopen]) ?_ ?_ (fun a => ?_) ?_
    (fun i => ?_) (fun _ a => ?_) (fun i _ => ⟨rfl, rfl⟩) (fun i a post acc => ?_)
  · simp [hopen, hcopen]
  · simp [hcopen]
  · rw [hfind]
    split
    · case isTrue ha =>
      rw [ha, ← k.live hopen]
      exact List.filter_sublist
    · exact List.Sublist.refl _
  · rw [hconsumers, length_handOut]
  · simp [hlive, Event.isDrop]
  · rw [funext hlive, hfind]
    change _ = listeners a h
    split
    · case isTrue ha =>
      rw [ha, ← k.live hopen, List.filter_filter]
      simp
    · exact k.live hopen a
  · rw [receivedBy_concat, discardedBy_concat, k.pending_handOut hopen hconsumers, ← acc.balance]
    simp only [receivedBy, discardedBy, sentTo, List.filterMap_cons_none, List.filterMap_nil,
      List.flatMap_cons, List.flatMap_nil, List.append_nil, List.append_assoc]
    congr 3
    cases hdropped : isDropped i post <;> by_cases ha : m.address = a <;>
      simp [acc.listens, hdropped, ha]

theorem receive_of_not_live (hlive : isLive b.consumers i = false) : b.receive i = (b, .gone) := by
  rw [Bus.receive]
  cases hc : b.consumers[i]? with
  | none => rfl
  | some c =>
    have hdropped : c.dropped = true := by simpa [isLive, hc] using hlive
    simp [hdropped]

theorem receive_cons {c : Consumer} {m : Message} {rest : List Message}
    (hc : b.consumers[i]? = some c) (hkept : c.dropped = false) (hbuffer : c.buffer = m :: rest) :
    b.receive i =
      ({ b with consumers := b.consumers.set i { c with buffer := rest } }, .message m) := by
  rw [Bus.receive, hc]
  simp only [hkept, Bool.false_eq_true, if_false]
  rw [hbuffer]

theorem receive_nil {c : Consumer} (hc : b.consumers[i]? = some c) (hkept : c.dropped = false)
    (hbuffer : c.buffer = []) :
    b.receive i = (b, if b.routes.reach i then .empty else .disconnected) := by
  rw [Bus.receive, hc]
  simp only [hkept, Bool.false_eq_true, if_false]
  rw [hbuffer]

theorem receive_fst (hnone : ∀ m, (b.receive i).2 ≠ .message m) : (b.receive i).1 = b := by
  cases hlive : isLive b.consumers i with
  | false => rw [receive_of_not_live hlive]
  | true =>
    obtain ⟨c, hc, hkept⟩ := isLive_eq_true hlive
    cases hbuffer : c.buffer with
    | nil => rw [receive_nil hc hkept hbuffer]
    | cons m rest =>
      rw [Bus.receive_cons hc hkept hbuffer] at hnone
      exact absurd rfl (hnone m)

theorem Keeps.receive_cons (k : b.Keeps h) {c : Consumer} {m : Message} {rest : List Message}
    (hc : b.consumers[i]? = some c) (hkept : c.dropped = false) (hbuffer : c.buffer = m :: rest) :
    { b with consumers := b.consumers.set i { c with buffer := rest } : Bus }.Keeps
      (h ++ [.received i m]) := by
  have hi : i < b.consumers.length := (List.getElem?_eq_some_iff.mp hc).1
  have hlive : ∀ j, isLive (b.consumers.set i { c with buffer := rest }) j =
      isLive b.consumers j := fun j => by
    by_cases hj : i = j
    · subst hj
      rw [isLive, isLive, List.getElem?_set_self hi, hc]
      rfl
    · rw [isLive, isLive, List.getElem?_set_ne hj]
  refine k.carry (fun _ _ he => by cases he) (fun _ => rfl) (by simp) k.routes
    (fun a => List.Sublist.refl _) List.length_set (fun j => ?_) (fun hopen a => ?_)
    (fun j hj => ⟨?_, rfl⟩) (fun j a post acc => ?_)
  · simp [hlive, Event.isDrop]
  · rw [funext hlive]
    exact k.live hopen a
  · simp [receivedBy, Nat.ne_of_lt (Nat.lt_of_lt_of_le hi hj)]
  · rw [receivedBy_concat, discardedBy_concat]
    by_cases hj : i = j
    · subst hj
      have hpost : isDropped i post = false := by
        have hlive := acc.live
        rw [isLive, hc] at hlive
        simpa [hkept] using hlive
      have hpending : b.pending i = m :: rest := by rw [pending, hc, ← hbuffer]; rfl
      rw [← acc.balance, acc.kept hpost, hpending, pending, List.getElem?_set_self hi]
      simp [receivedBy, discardedBy, sentTo]
    · rw [← acc.balance, pending, List.getElem?_set_ne hj]
      simp [receivedBy, discardedBy, hj, sentTo, pending]

theorem Keeps.receive (k : b.Keeps h) {m : Message} (hreceive : (b.receive i).2 = .message m) :
    (b.receive i).1.Keeps (h ++ [.received i m]) := by
  cases hlive : isLive b.consumers i with
  | false =>
    rw [receive_of_not_live hlive] at hreceive
    cases hreceive
  | true =>
    obtain ⟨c, hc, hkept⟩ := isLive_eq_true hlive
    cases hbuffer : c.buffer with
    | nil =>
      rw [receive_nil hc hkept hbuffer] at hreceive
      simp only at hreceive
      split at hreceive <;> cases hreceive
    | cons m' rest =>
      rw [Bus.receive_cons hc hkept hbuffer] at hreceive ⊢
      obtain rfl : m' = m := by simpa using hreceive
      exact k.receive_cons hc hkept hbuffer

theorem Keeps.drop (k : b.Keeps h) (i : Nat) :
    (b.drop i).Keeps (h ++ [.dropped i (b.pending i)]) := by
  have hget : ∀ j, (b.drop i).consumers[j]? =
      if i = j then (b.consumers[j]?).map fun c => { c with buffer := [], dropped := true }
      else b.consumers[j]? := fun j => by
    rw [Bus.drop, List.getElem?_modify]
    split <;> simp
  have hlive : ∀ j, isLive (b.drop i).consumers j = (isLive b.consumers j && !(i == j)) :=
    fun j => by
      rw [isLive, isLive, hget]
      by_cases hj : i = j
      · subst hj
        cases b.consumers[i]? <;> simp
      · simp [hj]
  refine k.carry (fun _ _ he => by cases he) (fun _ => rfl) (by simp [Bus.drop]) k.routes
    (fun a => List.Sublist.refl _) (by simp [Bus.drop]) hlive (fun hopen a => ?_)
    (fun j hj => ⟨rfl, ?_⟩) (fun j a post acc => ?_)
  · rw [listen, ← k.live hopen a, List.filter_filter, funext hlive]
    refine List.filter_congr fun j _ => ?_
    rw [Bool.and_comm, Bool.beq_comm]
    rfl
  · by_cases hij : i = j
    · subst hij
      simp [discardedBy, pending_eq_nil hj]
    · simp [discardedBy, hij]
  · rw [receivedBy_concat, discardedBy_concat, ← acc.balance, pending.eq_def (b.drop i), hget]
    by_cases hj : i = j
    · subst hj
      cases hc : b.consumers[i]? <;> simp [receivedBy, discardedBy, sentTo, pending, hc]
    · simp [receivedBy, discardedBy, sentTo, pending, hj]

theorem Keeps.close (k : b.Keeps h) : b.close.Keeps (h ++ [.closed]) := by
  have hclosed : b.close.closed = true := by
    rw [Bus.close]
    split
    · assumption
    · rfl
  have hroutes : b.close.routes = [] := by
    rw [Bus.close]
    split
    · case isTrue hclosed => exact k.routes hclosed
    · rfl
  have hconsumers : b.close.consumers = b.consumers := by
    rw [Bus.close]
    split <;> rfl
  refine k.carry (fun _ _ he => by cases he) (fun _ => rfl) (by simp [hclosed])
    (fun _ => hroutes) (fun a => ?_) (by rw [hconsumers]) (fun i => ?_) (fun hopen => ?_)
    (fun i _ => ⟨rfl, rfl⟩) (fun i a post acc => ?_)
  · rw [hroutes]
    exact List.nil_sublist _
  · simp [hconsumers, Event.isDrop]
  · rw [hclosed] at hopen
    cases hopen
  · rw [receivedBy_concat, discardedBy_concat, pending, hconsumers, ← acc.balance]
    simp [receivedBy, discardedBy, sentTo, pending]

/-- **Every operation keeps the books.** -/
theorem Keeps.perform (k : b.Keeps h) (op : Operation) :
    (b.perform op).1.Keeps (h ++ (event? op (b.perform op).2).toList) := by
  cases op with
  | attach address =>
    rw [Bus.perform]
    split
    · case h_1 hattach => exact k.attach hattach
    · simpa [event?] using k
  | send m =>
    rw [Bus.perform]
    split
    · case h_1 hsend => exact k.send hsend
    · simpa [event?] using k
  | receive i =>
    rw [Bus.perform]
    cases hreceive : (b.receive i).2 with
    | message m => exact k.receive hreceive
    | _ =>
      rw [receive_fst (by simp [hreceive])]
      simpa [event?] using k
  | drop i => exact k.drop i
  | close => exact k.close

/-- **And so does every run of them.** -/
theorem Keeps.run (k : b.Keeps h) (ops : List Operation) :
    (b.run ops).1.Keeps (h ++ (b.run ops).2) := by
  induction ops generalizing b h with
  | nil => simpa [Bus.run] using k
  | cons op rest ih =>
    have hrest := ih (k.perform op)
    rw [List.append_assoc] at hrest
    exact hrest

/-! ## What a run delivers -/

/-- What holds of a bus and the history of it, whatever was done to it. -/
structure Delivers (b : Bus) (h : List Event) : Prop where
  /-- Received, discarded or still there is exactly what a consumer is owed, in the order of the
  sends. -/
  balance : ∀ pre i a post, h = pre ++ .attached i a :: post →
    receivedBy i h ++ discardedBy i h ++ b.pending i = owed i a post
  own : ∀ pre i a post, h = pre ++ .attached i a :: post →
    ∀ m ∈ receivedBy i h ++ discardedBy i h ++ b.pending i, m.address = a
  /-- An attached consumer has a number of its own, and the others are left as they are. -/
  attach : .closed ∉ h → ∀ a, ∃ b' i, b.perform (.attach a) = (b', .attached i) ∧
    (∀ a', .attached i a' ∉ h) ∧ ∀ j, b'.pending j = b.pending j
  /-- A message is counted for each listener and added to what it has, and to no other. -/
  send : .closed ∉ h → ∀ m, (listeners m.address h).Nodup ∧
    ∃ b', b.perform (.send m) = (b', .sent (listeners m.address h).length) ∧
      ∀ j, b'.pending j = b.pending j ++ if j ∈ listeners m.address h then [m] else []
  /-- The listeners are the consumers that are attached to the address and not dropped. -/
  listen : ∀ pre i a post, h = pre ++ .attached i a :: post →
    ∀ a', i ∈ listeners a' h ↔ a' = a ∧ isDropped i post = false
  /-- A closed bus refuses messages and consumers, and closing it again is nothing. -/
  closed : .closed ∈ h → (∀ m, b.perform (.send m) = (b, .refused .closed)) ∧
    (∀ a, b.perform (.attach a) = (b, .refused .closed)) ∧ b.perform .close = (b, .closed)
  quiet : ∀ pre post, h = pre ++ .closed :: post → ∀ e ∈ post, e.isQuiet = true
  /-- A consumer gets what is first in its buffer.  With nothing in it it is told whether the bus is
  closed. -/
  receive : ∀ pre i a post, h = pre ++ .attached i a :: post → isDropped i post = false →
    (∀ m, (b.receive i).2 = .message m ↔ (b.pending i).head? = some m) ∧
    ((b.receive i).2 = .disconnected ↔ .closed ∈ h ∧ b.pending i = []) ∧
    ((b.receive i).2 = .empty ↔ .closed ∉ h ∧ b.pending i = [])

theorem mem_sentTo {m : Message} (hm : m ∈ sentTo address h) : m.address = address := by
  obtain ⟨e, -, he⟩ := List.mem_filterMap.mp hm
  cases e with
  | sent m' =>
    simp only [Option.ite_none_right_eq_some, Option.some.injEq] at he
    exact he.2 ▸ he.1
  | _ => cases he

/-- While the bus is open, a consumer that is not dropped is on a route. -/
theorem Keeps.reach (k : b.Keeps h) {pre : List Event}
    (hsplit : h = pre ++ .attached i address :: post) (hkept : isDropped i post = false) :
    b.routes.reach i = !b.closed := by
  cases hclosed : b.closed with
  | true =>
    rw [k.routes hclosed]
    rfl
  | false =>
    have hlisten := ((k.account _ _ _ _ hsplit).listens address).mpr ⟨rfl, hkept⟩
    rw [← k.live hclosed] at hlisten
    exact Routes.reach_of_mem_find (List.mem_filter.mp hlisten).1

theorem Keeps.delivers (k : b.Keeps h) : b.Delivers h where
  balance := fun pre i a post hsplit => (k.account pre i a post hsplit).balance
  own := fun pre i a post hsplit m hm => by
    rw [(k.account pre i a post hsplit).balance] at hm
    exact mem_sentTo hm
  attach := fun hopen a => by
    have hopen : b.closed = false := by rwa [← k.closed, Bool.not_eq_true] at hopen
    obtain ⟨b', hattach, hpending⟩ := attach_of_open hopen a
    refine ⟨b', b.consumers.length, by rw [Bus.perform, hattach], fun a' hin => ?_, hpending⟩
    obtain ⟨pre, post, hsplit⟩ := List.append_of_mem hin
    exact Nat.lt_irrefl _ (k.account _ _ _ _ hsplit).lt
  send := fun hopen m => by
    have hopen : b.closed = false := by rwa [← k.closed, Bool.not_eq_true] at hopen
    obtain ⟨b', hsend, -, hconsumers, -⟩ := k.send_of_open hopen m
    refine ⟨k.live hopen _ ▸ (k.nodup _).filter _, b', ?_, k.pending_handOut hopen hconsumers⟩
    rw [Bus.perform, hsend]
  listen := fun pre i a post hsplit => (k.account pre i a post hsplit).listens
  closed := fun hin => by
    have hclosed := k.closed.mpr hin
    exact ⟨fun m => by rw [Bus.perform, Bus.send, if_pos hclosed],
      fun a => by rw [Bus.perform, Bus.attach, if_pos hclosed],
      by rw [Bus.perform, Bus.close, if_pos hclosed]⟩
  quiet := k.quiet
  receive := fun pre i a post hsplit hkept => by
    have hlive := (k.account pre i a post hsplit).live
    rw [hkept] at hlive
    obtain ⟨c, hc, hlive⟩ := isLive_eq_true hlive
    have hpending : b.pending i = c.buffer := by rw [pending, hc]; rfl
    rw [← k.closed, hpending]
    cases hbuffer : c.buffer with
    | nil =>
      rw [receive_nil hc hlive hbuffer, k.reach hsplit hkept]
      cases b.closed <;> simp
    | cons m rest =>
      rw [Bus.receive_cons hc hlive hbuffer]
      simp

/-- **Delivery.**  Whatever consumers are attached and dropped, whatever they receive and whatever
is sent, before the bus is closed and after: every consumer gets the messages sent to its address
while it is attached, each once and in their order, and no others. -/
theorem run_delivers (ops : List Operation) :
    (({} : Bus).run ops).1.Delivers (({} : Bus).run ops).2 :=
  (keeps_empty.run ops).delivers

end EventIntake.Bus
