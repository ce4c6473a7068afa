import EventIntake.Contract.Publisher
import EventIntake.Contract.WatchLoop

/-!
# The exchange of contracts

One bus, publishers on it, and watches over one file tree.  Publishers that were cloned from one
another are one family and are closed together.  The handler of a watch is a publisher, or a script
that says of each call what it writes and whether it fails.

Started watches go on while somebody waits.  A round gives each of them one turn; when a round
calls no script nothing more can change, so waiting is over after as many rounds as scripts and
watches can make a difference.
-/

namespace EventIntake

/-- What a scripted handler does in one call: it writes, then it fails or succeeds. -/
structure ScriptedCall where
  failure : Option String := none
  writes : List (String × Files.Node) := []

inductive Handler where
  | publisher (family : Nat)
  | script (calls : List ScriptedCall)

/-- What handlers see and change. -/
structure Surroundings where
  files : Files.Tree := {}
  bus : Bus := {}
  /-- One publisher for each family. -/
  publishers : List Publisher := []
  metrics : Metrics := {}
  /-- The calls of scripted handlers so far, latest last. -/
  calls : List (String × ByteArray) := []

namespace Surroundings

def publish (s : Surroundings) (family : Nat) (path : String) (contents : ByteArray) :
    Surroundings × Except PublishFailure Nat :=
  match s.publishers[family]? with
  | none => (s, .error .closed)
  | some p =>
    match p.publish path contents s.bus s.metrics with
    | .ok (bus, metrics, size) => ({ s with bus, metrics }, .ok size)
    | .error e => (s, .error e)

def publishFile (s : Surroundings) (family : Nat) (path : String) :
    Surroundings × Except PublishFailure Nat :=
  match s.publishers[family]? with
  | none => (s, .error .closed)
  | some p =>
    match p.publishFile s.files path s.bus s.metrics with
    | .ok (bus, metrics, size) => ({ s with bus, metrics }, .ok size)
    | .error e => (s, .error e)

def write (s : Surroundings) (writes : List (String × Files.Node)) : Surroundings :=
  { s with files := writes.foldl (fun files w => files.put w.1 w.2) s.files }

end Surroundings

/-- Call a handler.  A script moves on with each call, and succeeds when it has come to its end. -/
def Handler.call (s : Surroundings × Handler) (path : String) (contents : ByteArray) :
    (Surroundings × Handler) × Except String Unit :=
  match s with
  | (s, .publisher family) =>
    match s.publish family path contents with
    | (s, .ok _) => ((s, .publisher family), .ok ())
    | (s, .error e) => ((s, .publisher family), .error e.message)
  | (s, .script calls) =>
    let s := { s with calls := s.calls ++ [(path, contents)] }
    match calls with
    | [] => ((s, .script []), .ok ())
    | c :: rest =>
      ((s.write c.writes, .script rest),
        match c.failure with
        | some reason => .error reason
        | none => .ok ())

def Handler.length : Handler → Nat
  | publisher _ => 0
  | script calls => calls.length

structure Watcher where
  loop : WatchLoop
  handler : Handler

structure Exchange extends Surroundings where
  /-- The family of each publisher. -/
  members : List Nat := []
  watchers : List Watcher := []

namespace Exchange

/-- A new publisher, which is a family of its own. -/
def addPublisher (x : Exchange) (address : String) : Exchange × Nat :=
  ({ x with
      publishers := x.publishers ++ [{ address }]
      members := x.members ++ [x.publishers.length] }, x.members.length)

/-- A new member of the family of publisher `i`. -/
def clonePublisher (x : Exchange) (i : Nat) : Exchange × Nat :=
  ({ x with members := x.members ++ (x.members[i]?).toList }, x.members.length)

def family (x : Exchange) (i : Nat) : Nat := x.members.getD i x.publishers.length

def closePublisher (x : Exchange) (i : Nat) : Exchange :=
  { x with publishers := x.publishers.modify (x.family i) (·.close) }

def publish (x : Exchange) (i : Nat) (path : String) (contents : ByteArray) :
    Exchange × Except PublishFailure Nat :=
  let (s, result) := x.toSurroundings.publish (x.family i) path contents
  ({ x with toSurroundings := s }, result)

def publishFile (x : Exchange) (i : Nat) (path : String) : Exchange × Except PublishFailure Nat :=
  let (s, result) := x.toSurroundings.publishFile (x.family i) path
  ({ x with toSurroundings := s }, result)

def addWatcher (x : Exchange) (path : String) (handler : Handler) : Exchange × Nat :=
  ({ x with watchers := x.watchers ++ [⟨{ watch := { path } }, handler⟩] }, x.watchers.length)

/-- A new watch whose handler is publisher `i`. -/
def addPublishing (x : Exchange) (path : String) (i : Nat) : Exchange × Nat :=
  x.addWatcher path (.publisher (x.family i))

def readFile (s : Surroundings × Handler) (path : String) : Except ReadError ByteArray :=
  s.1.files.read path

/-- Check once by hand.  A watch that was started is not at hand. -/
def check (x : Exchange) (i : Nat) : Exchange × Option (Watch × Observation) :=
  match x.watchers[i]? with
  | none => (x, none)
  | some w =>
    if w.loop.isIdle then
      let ((s, handler), watch, outcome) :=
        w.loop.watch.check readFile Handler.call (x.toSurroundings, w.handler)
      ({ x with
          toSurroundings := s
          watchers := x.watchers.set i ⟨{ w.loop with watch }, handler⟩ },
        some (watch, outcome))
    else (x, none)

/-- Start watcher `i`, unless it was started before. -/
def start (x : Exchange) (i : Nat) : Exchange × Bool :=
  match x.watchers[i]? with
  | none => (x, false)
  | some w =>
    if w.loop.isIdle then
      ({ x with watchers := x.watchers.set i { w with loop := w.loop.start } }, true)
    else (x, false)

/-- Stop watcher `i` and wait for its loop to end, if it is running. -/
def stop (x : Exchange) (i : Nat) : Exchange × Bool :=
  match x.watchers[i]? with
  | none => (x, false)
  | some w =>
    if w.loop.isRunning then
      ({ x with watchers := x.watchers.set i { w with loop := w.loop.stop } }, true)
    else (x, false)

/-- Give every watch one turn. -/
def round (x : Exchange) : Exchange :=
  let (s, watchers) := x.watchers.foldl (fun (s, done) w =>
    let ((s, handler), loop) := w.loop.turn readFile Handler.call (s, w.handler)
    (s, done ++ [⟨loop, handler⟩])) (x.toSurroundings, [])
  { x with toSurroundings := s, watchers }

/-- Give turns until `done`, at most `rounds` times. -/
def waitFor (done : Exchange → Bool) : Nat → Exchange → Exchange
  | 0, x => x
  | rounds + 1, x => if done x then x else waitFor done rounds x.round

/-- After that many rounds nothing more happens. -/
def patience (x : Exchange) : Nat :=
  x.watchers.foldr (fun w n => w.handler.length + 2 + n) 1

/-- Let the watches go on until nothing more happens. -/
def sleep (x : Exchange) : Exchange := waitFor (fun _ => false) x.patience x

/-- Wait until that many calls of scripted handlers were made, and tell whether they were. -/
def awaitCalls (x : Exchange) (calls : Nat) : Exchange × Bool :=
  let x := waitFor (fun x => calls ≤ x.calls.length) x.patience x
  (x, calls ≤ x.calls.length)

/-- What consumer `i` receives next, after waiting for it. -/
def awaitMessage (x : Exchange) (i : Nat) : Exchange × Received :=
  let isThere (x : Exchange) : Bool :=
    match (x.bus.receive i).2 with
    | .empty => false
    | _ => true
  let x := waitFor isThere x.patience x
  let (bus, received) := x.bus.receive i
  ({ x with bus }, received)

end Exchange

end EventIntake
