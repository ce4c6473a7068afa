import EventIntake.Messaging.Message

/-!
# The bus

Consumers attach to an address and each of them receives every message sent to it from then on, in
the order of the sends.  A consumer that is dropped receives nothing more.  Once the bus is closed
nothing is sent or attached, but what a consumer still has before it can be received.

For every address the bus keeps a route, the consumers there.  Nobody tells it when a consumer is
dropped: the next message to its address finds that out, and strikes the consumer from the route
while it is handed to the others.  Closing the bus strikes out every route, and a consumer that is
on none has nothing more to wait for.
-/

namespace EventIntake

inductive BusRefusal where
  | closed
  deriving DecidableEq, Repr

def BusRefusal.message : BusRefusal → String
  | closed => "event bus is closed"

/-- A consumer with the messages it has not yet received. -/
structure Consumer where
  buffer : List Message := []
  dropped : Bool := false

def Consumer.take (c : Consumer) (m : Message) : Consumer := { c with buffer := c.buffer ++ [m] }

/-- The consumers at each address by their numbers, in the order they attached. -/
abbrev Routes := List (String × List Nat)

namespace Routes

/-- The consumers at an address. -/
def find (r : Routes) (address : String) : List Nat := (r.lookup address).getD []

/-- Change who is at an address. -/
def change (address : String) (f : List Nat → List Nat) : Routes → Routes
  | [] => [(address, f [])]
  | (a, l) :: rest =>
    if a = address then (a, f l) :: rest else (a, l) :: change address f rest

/-- Whether a consumer is on some route. -/
def reach (r : Routes) (i : Nat) : Bool := r.any fun route => route.2.contains i

@[simp] theorem find_nil (address : String) : find [] address = [] := rfl

theorem find_cons (a : String) (l : List Nat) (rest : Routes) (address : String) :
    find ((a, l) :: rest) address = if a = address then l else rest.find address := by
  by_cases h : a = address
  · simp [find, h]
  · have hne : (address == a) = false := beq_false_of_ne (Ne.symm h)
    simp [find, List.lookup_cons, hne, h]

theorem find_change (r : Routes) (a address : String) (f : List Nat → List Nat) :
    (r.change a f).find address = if address = a then f (r.find a) else r.find address := by
  induction r with
  | nil =>
    rw [change, find_cons]
    by_cases h : address = a
    · simp [h]
    · simp [h, Ne.symm h]
  | cons entry rest ih =>
    obtain ⟨b, l⟩ := entry
    rw [change]
    by_cases hb : b = a
    · subst hb
      rw [if_pos rfl, find_cons, find_cons, find_cons]
      by_cases h : address = b
      · simp [h]
      · simp [h, Ne.symm h]
    · rw [if_neg hb, find_cons, ih, find_cons, find_cons]
      by_cases h : address = a
      · subst h
        simp [hb]
      · simp [h]

theorem reach_of_mem_find {r : Routes} {address : String} {i : Nat} (h : i ∈ r.find address) :
    r.reach i = true := by
  induction r with
  | nil => cases h
  | cons entry rest ih =>
    obtain ⟨a, l⟩ := entry
    rw [find_cons] at h
    rw [reach, List.any_cons]
    split at h
    · rw [List.contains_iff_mem.mpr h, Bool.true_or]
    · rw [← reach, ih h, Bool.or_true]

end Routes

structure Bus where
  consumers : List Consumer := []
  routes : Routes := []
  closed : Bool := false

/-- What a consumer finds when it looks for a message. -/
inductive Received where
  | message (message : Message)
  | empty
  | disconnected
  /-- The consumer was dropped. -/
  | gone

namespace Bus

/-- The name under which the bus is closed. -/
def name : String := "event-bus"

/-- Attach a consumer.  The answer is its number. -/
def attach (b : Bus) (address : String) : Except BusRefusal (Bus × Nat) :=
  if b.closed then .error .closed
  else
    let i := b.consumers.length
    .ok ({ b with
      consumers := b.consumers ++ [{}]
      routes := b.routes.change address (· ++ [i]) }, i)

/-- A bus to which consumers of these addresses were attached. -/
def attended (addresses : List String) : Bus :=
  addresses.foldl (fun b address => ((b.attach address).toOption.map Prod.fst).getD b) {}

/-- Hand a message to one consumer after the other.  The answer tells those that took it, which one
that was dropped does not. -/
def handOut (m : Message) : List Consumer → List Nat → List Consumer × List Nat
  | consumers, [] => (consumers, [])
  | consumers, i :: rest =>
    match consumers[i]? with
    | none => handOut m consumers rest
    | some c =>
      if c.dropped then handOut m consumers rest
      else
        let (consumers, took) := handOut m (consumers.set i (c.take m)) rest
        (consumers, i :: took)

/-- Send a message.  The answer is how many consumers it reached. -/
def send (b : Bus) (m : Message) : Except BusRefusal (Bus × Nat) :=
  if b.closed then .error .closed
  else
    match b.routes.lookup m.address with
    | none => .ok (b, 0)
    | some route =>
      let (consumers, took) := handOut m b.consumers route
      .ok ({ b with consumers, routes := b.routes.change m.address fun _ => took }, took.length)

def close (b : Bus) : Bus := if b.closed then b else { b with closed := true, routes := [] }

/-- Drop consumer `i` with all that it has not received. -/
def drop (b : Bus) (i : Nat) : Bus :=
  { b with consumers := b.consumers.modify i fun c => { c with buffer := [], dropped := true } }

/-- What consumer `i` receives next. -/
def receive (b : Bus) (i : Nat) : Bus × Received :=
  match b.consumers[i]? with
  | none => (b, .gone)
  | some c =>
    if c.dropped then (b, .gone)
    else
      match c.buffer with
      | m :: rest =>
        ({ b with consumers := b.consumers.set i { c with buffer := rest } }, .message m)
      | [] => (b, if b.routes.reach i then .empty else .disconnected)

end Bus

end EventIntake
