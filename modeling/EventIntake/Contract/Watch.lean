import EventIntake.Contract.Fingerprint
import EventIntake.Files.Tree

/-!
# Watching a contract

A watch remembers the fingerprint of the contents that its handler last accepted.  A check reads the
file and calls the handler when the fingerprint of what it read is another one; only a handler that
succeeds moves the fingerprint on, so a change that was refused is tried again by the next check.

A check has two halves, `look` before the handler and `settle` after it, for the file may change in
between.
-/

namespace EventIntake

structure Watch where
  path : String
  last : Option Fingerprint := none
  deriving DecidableEq, Repr

inductive Observation where
  | unchanged
  /-- There is no file. -/
  | missing
  | published (fingerprint : Fingerprint)
  | unreadable (path : String) (reason : ReadError)
  /-- The handler failed. -/
  | refused (path : String) (reason : String)
  deriving DecidableEq, Repr

namespace Observation

def failure? : Observation → Option String
  | unreadable path reason => some ("failed to read " ++ path ++ ": " ++ reason.message)
  | refused path reason => some ("change handler failed for " ++ path ++ ": " ++ reason)
  | _ => none

end Observation

namespace Watch

/-- The name under which a watch is closed. -/
def name : String := "contract-watcher"

/-- What to do about what was read: tell an outcome, or call the handler with the contents. -/
def look (w : Watch) : Except ReadError ByteArray → Observation ⊕ ByteArray
  | .error .notFound => .inl .missing
  | .error e => .inl (.unreadable w.path e)
  | .ok contents =>
    if w.last = some (.of contents) then .inl .unchanged else .inr contents

/-- After the handler was called with the contents. -/
def settle (w : Watch) (contents : ByteArray) : Except String Unit → Watch × Observation
  | .ok _ => ({ w with last := some (.of contents) }, .published (.of contents))
  | .error reason => (w, .refused w.path reason)

/-- One check, where `read` and `handle` see and change a state of their own. -/
def check {σ : Type} (read : σ → String → Except ReadError ByteArray)
    (handle : σ → String → ByteArray → σ × Except String Unit) (w : Watch) (s : σ) :
    σ × Watch × Observation :=
  match w.look (read s w.path) with
  | .inl outcome => (s, w, outcome)
  | .inr contents =>
    let (s, result) := handle s w.path contents
    (s, w.settle contents result)

theorem check_of_look_inl {σ : Type} {read : σ → String → Except ReadError ByteArray}
    {handle : σ → String → ByteArray → σ × Except String Unit} {w : Watch} {s : σ}
    {outcome : Observation} (h : w.look (read s w.path) = .inl outcome) :
    w.check read handle s = (s, w, outcome) := by
  simp [check, h]

end Watch

end EventIntake
