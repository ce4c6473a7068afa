import EventIntake.Lifecycle.Progress

/-!
# The close pass

The pass closes one resource after the other in the order it was given, each until it ends or is cut
off, and goes on whatever came of it.  When nothing is left it writes the report and stops the
process, in one step.
-/

namespace EventIntake.Lifecycle

variable {α : Type}

def Pass.report (p : Pass α) : Report := ⟨p.cause, p.attempted, p.errors⟩

/-- The end of one close. -/
def Pass.afterClose (w : World α) (p : Pass α) (c : Closing (Work α))
    (result : Option (Except String (Value α))) : World α × Thread α :=
  match w.endClose c result with
  | (w, .ok _) => (w, .pass { p with current := none })
  | (w, .error e) =>
    ((w.warn "Resource failed to close" [("resource", e.resource), ("reason", e.reason)]).count
        Metrics.teardownError,
      .pass { p with current := none, errors := p.errors ++ [e] })

/-- The next step of the pass, if it can go on at this instant. -/
def Pass.step (w : World α) (p : Pass α) : Option (World α × Thread α) :=
  match p.current with
  | some c =>
    match c.work.step w with
    | some (w, .inl work) => some (w, .pass { p with current := some { c with work } })
    | some (w, .inr result) => some (p.afterClose w c (some result))
    | none => if c.due ≤ w.now then some (p.afterClose w c none) else none
  | none =>
    match p.waiting with
    | [] => some (w.stop p.report, .finished)
    | e :: rest =>
      let (w, closing) := w.beginClose e.ticket e.resource
      some (w, .pass { p with
        current := some closing
        waiting := rest
        attempted := p.attempted ++ [e.resource.name] })

def Thread.step (w : World α) : Thread α → Option (World α × Thread α)
  | .trigger cause false => some (w.trigger cause, .trigger cause true)
  | .trigger _ true =>
    match w.coordinator.report with
    | some r => some (w.note (.returned r), .finished)
    | none => none
  | .pass p => p.step w
  | .finished => none

def Thread.nextDue (now : Nat) : Thread α → Option Nat
  | .pass p =>
    match p.current with
    | some c => earlier (after now c.due) (c.work.nextDue now)
    | none => none
  | .trigger _ _ | .finished => none

namespace World

/-- One step of thread `i`, if it can go on. -/
def stepThread (w : World α) (i : Nat) : Option (World α) :=
  match w.threads[i]? with
  | some t =>
    match t.step w with
    | some (w, t) => some { w with threads := w.threads.set i t }
    | none => none
  | none => none

/-- One step of the first thread that can go on. -/
def step (w : World α) : Option (World α) := (List.range w.threads.length).findSome? w.stepThread

/-- The next instant at which some thread can go on, when none can now. -/
def nextDue (w : World α) : Option Nat :=
  w.threads.foldl (fun due t => earlier due (t.nextDue w.now)) none

/-- A bound on the steps that the threads can still take. -/
def weight (w : World α) : Nat :=
  w.threads.foldr (fun t n => t.weight + n) 0 + entriesWeight w.coordinator.entries

end World

end EventIntake.Lifecycle
