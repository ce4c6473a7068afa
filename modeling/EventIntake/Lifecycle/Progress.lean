import EventIntake.Lifecycle.Coordinator

/-!
# The progress of work

`Work.step` takes the one next step of some work, if it can go on at the present instant.  What is
inside goes first: a deadline counts only when nothing that it bounds can go on, so work that ends
exactly at its deadline has ended.  Of the workers of a deployment the first that can go on does.

A step changes the shared state by one of the operations of `World`, never otherwise.
-/

namespace EventIntake.Lifecycle

variable {α : Type}

/-- What one step leaves: work that goes on, or its result. -/
abbrev Stepped (α : Type) := Work α ⊕ Except String (Value α)

/-- Begin an action, with `rest` after it. -/
def Action.begin (w : World α) (value : Value α) (rest : List (Action α)) :
    Action α → World α × Stepped α
  | .log text => (w.record (.said text), .inl (.mk .none value rest))
  | .state => (w.record (.stateIs w.coordinator.state), .inl (.mk .none value rest))
  | .registered =>
    (w.record (.registeredAre w.coordinator.registered), .inl (.mk .none value rest))
  | .sleep time => (w, .inl (.mk (.untilTime (w.dueIn time)) value rest))
  | .fail message => (w, .inr (.error message))
  | .hang => (w, .inl (.mk .forever value rest))
  | .value v => (w, .inl (.mk .none (.given v) rest))
  | .register r =>
    match w.register r with
    | (w, none) => (w, .inl (.mk .none value rest))
    | (w, some closing) => (w, .inl (.mk (.refusal false closing) value rest))
  | .tryRegister r =>
    match w.register r with
    | (w, none) => (w.record .accepted, .inl (.mk .none value rest))
    | (w, some closing) => (w, .inl (.mk (.refusal true closing) value rest))
  | .trigger cause => (w.trigger cause, .inl (.mk .report value rest))
  | .spawnTrigger cause => (w.spawn (.trigger cause false), .inl (.mk .none value rest))
  | .deploy deadline workers =>
    let waiting := workers.zipIdx.map fun ((start, r), i) => Worker.waiting i start r
    (w, .inl (.mk (.deployment deadline (w.dueIn deadline) waiting) value rest))

/-- After the close of a refused resource: the action fails, or tells and is done. -/
def Work.afterRefusal (w : World α) (tolerated : Bool) (c : Closing (Work α))
    (result : Option (Except String (Value α))) (value : Value α) (rest : List (Action α)) :
    World α × Stepped α :=
  let w := w.endRefusal c result
  if tolerated then
    (w.record (.refused (refusalMessage c.name)), .inl (.mk .none value rest))
  else (w, .inr (.error (refusalMessage c.name)))

/-- The results of workers that have all settled. -/
def Worker.results : List (Worker α) → Option (List (Except String Unit))
  | [] => some []
  | .settled r :: rest => (Worker.results rest).map (r :: ·)
  | _ :: _ => none

/-- The first failure, by the number of the worker. -/
def firstFailure : List (Except String Unit) → Option String
  | [] => none
  | .error e :: _ => some e
  | .ok _ :: rest => firstFailure rest

/-- After the last worker has settled, or at the deadline of a deployment. -/
def Work.afterDeployment (w : World α) (deadline : Duration) (due : Nat)
    (workers : List (Worker α)) (rest : List (Action α)) : Option (World α × Stepped α) :=
  match Worker.results workers with
  | some results =>
    match firstFailure results with
    | some e => some (w, .inr (.error e))
    | none => some (w, .inl (.mk .none (.deployed workers.length) rest))
  | none =>
    if due ≤ w.now then
      some (w.giveUp (workersRefusals workers),
        .inr (.error ("deployment of " ++ toString workers.length
          ++ " workers did not finish within " ++ deadline.text)))
    else none

/-- The resource of a worker that is up is handed over. -/
def Worker.enroll (w : World α) (r : Resource (Action α)) : World α × Worker α :=
  match w.register r with
  | (w, none) => (w, .settled (.ok ()))
  | (w, some closing) => (w, .refused closing)

mutual

/-- The next step of the work, if it can go on at this instant. -/
def Work.step (w : World α) : Work α → Option (World α × Stepped α)
  | .mk pause value rest =>
    match pause with
    | .none =>
      match rest with
      | [] => some (w, .inr (.ok value))
      | action :: rest => some (action.begin w value rest)
    | .untilTime due => if due ≤ w.now then some (w, .inl (.mk .none value rest)) else none
    | .forever => none
    | .report =>
      match w.coordinator.report with
      | some r =>
        some ((w.note (.returned r)).record (.reported r.attempted.length),
          .inl (.mk .none value rest))
      | none => none
    | .refusal tolerated ⟨ticket, name, stage, due, close⟩ =>
      match close.step w with
      | some (w, .inl close) =>
        some (w, .inl (.mk (.refusal tolerated ⟨ticket, name, stage, due, close⟩) value rest))
      | some (w, .inr result) =>
        some (Work.afterRefusal w tolerated ⟨ticket, name, stage, due, close⟩ (some result)
          value rest)
      | none =>
        if due ≤ w.now then
          some (Work.afterRefusal w tolerated ⟨ticket, name, stage, due, close⟩ none value rest)
        else none
    | .deployment deadline due workers =>
      match stepWorkers w workers with
      | some (w, workers) => some (w, .inl (.mk (.deployment deadline due workers) value rest))
      | none => Work.afterDeployment w deadline due workers rest

def Worker.step (w : World α) : Worker α → Option (World α × Worker α)
  | .waiting number start r =>
    some (w.record (.creating number), .starting number (.ofActions start) r)
  | .starting number start r =>
    match start.step w with
    | some (w, .inl start) => some (w, .starting number start r)
    | some (w, .inr (.ok _)) => some (Worker.enroll w r)
    | some (w, .inr (.error e)) =>
      some (w, .settled (.error
        ("ingress worker " ++ toString number ++ " failed to start: " ++ e)))
    | none => none
  | .refused ⟨ticket, name, stage, due, close⟩ =>
    match close.step w with
    | some (w, .inl close) => some (w, .refused ⟨ticket, name, stage, due, close⟩)
    | some (w, .inr result) =>
      some (w.endRefusal ⟨ticket, name, stage, due, close⟩ (some result),
        .settled (.error (refusalMessage name)))
    | none =>
      if due ≤ w.now then
        some (w.endRefusal ⟨ticket, name, stage, due, close⟩ none,
          .settled (.error (refusalMessage name)))
      else none
  | .settled _ => none

def stepWorkers (w : World α) : List (Worker α) → Option (World α × List (Worker α))
  | [] => none
  | worker :: rest =>
    match worker.step w with
    | some (w, worker) => some (w, worker :: rest)
    | none =>
      match stepWorkers w rest with
      | some (w, rest) => some (w, worker :: rest)
      | none => none

end

end EventIntake.Lifecycle
