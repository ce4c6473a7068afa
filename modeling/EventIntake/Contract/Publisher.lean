import EventIntake.Files.Tree
import EventIntake.Journal
import EventIntake.Messaging.Bus

/-!
# Publishers

A publisher sends a whole contract to its address, with the path it was read from as a header.  It
is closed once and for all; of the things that can stand in the way of a publication the closed
publisher is told first, then a contract that cannot be read, then a closed bus.
-/

namespace EventIntake

/-- The address at which the contract is awaited. -/
def reconcilerAddress : String := "resourcesreconciler.core"

/-- The header with the path that a contract was read from. -/
def sourceHeader : String := "contract-source"

inductive PublishFailure where
  | unreadable (path : String) (reason : ReadError)
  | closed
  | bus (reason : BusRefusal)
  deriving DecidableEq, Repr

def PublishFailure.message : PublishFailure → String
  | unreadable path reason => "failed to read contract " ++ path ++ ": " ++ reason.message
  | closed => "contract publisher is closed"
  | bus reason => reason.message

structure Publisher where
  address : String
  closed : Bool := false
  deriving DecidableEq, Repr

namespace Publisher

/-- The name under which a publisher is closed. -/
def name : String := "contract-publisher"

def close (p : Publisher) : Publisher := { p with closed := true }

/-- The message that carries a contract. -/
def message (p : Publisher) (path : String) (contents : ByteArray) : Message :=
  { address := p.address, headers := [(sourceHeader, path)], payload := contents }

/-- Send contents that were read from `path`.  The answer is their size. -/
def publish (p : Publisher) (path : String) (contents : ByteArray) (bus : Bus) (metrics : Metrics) :
    Except PublishFailure (Bus × Metrics × Nat) :=
  if p.closed then .error .closed
  else
    match bus.send (p.message path contents) with
    | .error e => .error (.bus e)
    | .ok (bus, _) => .ok (bus, metrics.published contents.size, contents.size)

/-- Send what stands at `path`. -/
def publishFile (p : Publisher) (files : Files.Tree) (path : String) (bus : Bus)
    (metrics : Metrics) : Except PublishFailure (Bus × Metrics × Nat) :=
  if p.closed then .error .closed
  else
    match files.read path with
    | .error e => .error (.unreadable path e)
    | .ok contents => p.publish path contents bus metrics

end Publisher

end EventIntake
