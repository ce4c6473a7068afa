import EventIntake.Contract.Watch

/-!
# The loop of a watch

A started watch checks at every tick of its ticker and whenever it finds a hint that something near
the file changed.  It takes all hints at once before it reads, so a change that comes after the
taking leaves a hint of its own.  To stop, the loop needs to get back to waiting.
-/

namespace EventIntake

inductive Stand where
  /-- Not yet started. -/
  | idle
  | waiting
  /-- Woken, and about to read the file. -/
  | awake
  /-- Calling the handler. -/
  | handling (contents : ByteArray)
  | ended

def Stand.isIdle : Stand → Bool
  | idle => true
  | _ => false

def Stand.isWaiting : Stand → Bool
  | waiting => true
  | _ => false

structure WatchLoop where
  watch : Watch
  stand : Stand := .idle
  /-- The hints that were not yet taken. -/
  hints : Nat := 0
  stopping : Bool := false

namespace WatchLoop

def isIdle (l : WatchLoop) : Bool := l.stand.isIdle

def isRunning (l : WatchLoop) : Bool :=
  match l.stand with
  | .idle | .ended => false
  | _ => true

def start (l : WatchLoop) : WatchLoop := if l.isIdle then { l with stand := .waiting } else l

def hint (l : WatchLoop) : WatchLoop := { l with hints := l.hints + 1 }

/-- Wake at a tick. -/
def tick (l : WatchLoop) : WatchLoop :=
  if l.stand.isWaiting then { l with stand := .awake } else l

/-- Wake for the hints, and take them all. -/
def drain (l : WatchLoop) : WatchLoop :=
  if l.stand.isWaiting ∧ 0 < l.hints then { l with stand := .awake, hints := 0 } else l

/-- Where the loop goes after a check. -/
def afterCheck (l : WatchLoop) : Stand := if l.stopping then .ended else .waiting

/-- Read the file. -/
def read (l : WatchLoop) (contents : Except ReadError ByteArray) : WatchLoop × Option Observation :=
  match l.stand with
  | .awake =>
    match l.watch.look contents with
    | .inl outcome => ({ l with stand := l.afterCheck }, some outcome)
    | .inr contents => ({ l with stand := .handling contents }, none)
  | _ => (l, none)

/-- The handler has come back. -/
def handled (l : WatchLoop) (result : Except String Unit) : WatchLoop × Option Observation :=
  match l.stand with
  | .handling contents =>
    let (watch, outcome) := l.watch.settle contents result
    ({ l with watch, stand := l.afterCheck }, some outcome)
  | _ => (l, none)

/-- Have the loop stop as soon as it can. -/
def stop (l : WatchLoop) : WatchLoop :=
  { l with stopping := true, stand := if l.stand.isWaiting then .ended else l.stand }

/-- One turn of the loop, where `readFile` and `handle` see and change a state of their own. -/
def turn {σ : Type} (readFile : σ → String → Except ReadError ByteArray)
    (handle : σ → String → ByteArray → σ × Except String Unit) (l : WatchLoop) (s : σ) :
    σ × WatchLoop :=
  let (l, _) := l.tick.read (readFile s l.watch.path)
  match l.stand with
  | .handling contents =>
    let (s, result) := handle s l.watch.path contents
    (s, (l.handled result).1)
  | _ => (s, l)

end WatchLoop

end EventIntake
