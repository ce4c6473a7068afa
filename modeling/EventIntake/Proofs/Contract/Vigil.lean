import EventIntake.Contract.WatchLoop
import EventIntake.Proofs.Contract.Checks

/-!
# A watch that loses no change

The loop of a watch goes on while others change the file, and each of their changes leaves a hint
some time after it was made.  Nothing is done at once here: after it has woken for a hint the loop
takes the other hints one by one, and a change or a hint can come between any two moves, before the
hints are all taken, before the file is read, and while the handler is called.

A hint may be thrown away only by a loop that has yet to read.  So whatever the latest read has not
seen is announced (`Vigil.Keeps.hinted`): its hint is in the queue or on its way, or the loop is
about to read.  A watch that waits with nothing announced has therefore accepted what is in the file
(`Vigil.run_vigilant`).
-/

namespace EventIntake

/-- A started watch, with the file and those who change it. -/
structure Vigil where
  loop : WatchLoop
  files : Files.Tree
  /-- Whether the loop is still taking hints, before it reads. -/
  taking : Bool := false
  /-- The changes whose hint has not come yet. -/
  owed : Nat := 0
  seen : Option (Except ReadError ByteArray) := none
  outcomes : List Observation := []

namespace Vigil

inductive Move where
  | edit (change : Files.Tree → Files.Tree)
  | hint
  /-- The hint of something that is no concern of the watch. -/
  | stray
  | tick
  | wake
  /-- The loop looks for one more hint. -/
  | take
  | read
  | handled (result : Except String Unit)
  | stop

def found (x : Vigil) : Except ReadError ByteArray := x.files.read x.loop.watch.path

def take (x : Vigil) : Move → Vigil
  | .edit change => { x with files := change x.files, owed := x.owed + 1 }
  | .hint => if 0 < x.owed then { x with loop := x.loop.hint, owed := x.owed - 1 } else x
  | .stray => { x with loop := x.loop.hint }
  | .tick => { x with loop := x.loop.tick }
  | .wake =>
    if x.loop.stand.isWaiting ∧ 0 < x.loop.hints then
      { x with loop := { x.loop.tick with hints := x.loop.hints - 1 }, taking := true }
    else x
  | .take =>
    if x.taking then
      if x.loop.hints = 0 then { x with taking := false }
      else { x with loop := { x.loop with hints := x.loop.hints - 1 } }
    else x
  | .read =>
    match x.loop.stand, x.taking with
    | .awake, false =>
      let (loop, outcome) := x.loop.read x.found
      { x with loop, seen := some x.found, outcomes := x.outcomes ++ outcome.toList }
    | _, _ => x
  | .handled result =>
    let (loop, outcome) := x.loop.handled result
    { x with loop, outcomes := x.outcomes ++ outcome.toList }
  | .stop => { x with loop := x.loop.stop }

/-- A watch that was just started, whatever it remembers. -/
def start (watch : Watch) (files : Files.Tree) : Vigil :=
  { loop := ({ watch } : WatchLoop).start, files }

def run (x : Vigil) (moves : List Move) : Vigil := moves.foldl take x

variable {x : Vigil}

/-! ## The hints are taken one by one -/

theorem run_take (n : Nat) (htaking : x.taking = true) (hhints : x.loop.hints = n) :
    x.run (List.replicate (n + 1) .take) =
      { x with loop := { x.loop with hints := 0 }, taking := false } := by
  induction n generalizing x with
  | zero =>
    show x.take .take = _
    rw [take, if_pos htaking, if_pos hhints, ← hhints]
  | succ n ih =>
    have hfirst : x.take .take = { x with loop := { x.loop with hints := n } } := by
      rw [take, if_pos htaking, if_neg (by omega), hhints]
      rfl
    rw [List.replicate_succ, run, List.foldl_cons, hfirst]
    exact ih htaking rfl

/-- **A loop that nobody disturbs while it takes its hints takes them all at once.** -/
theorem run_wake (hwaiting : x.loop.stand.isWaiting = true) (hhints : 0 < x.loop.hints) :
    x.run (.wake :: List.replicate x.loop.hints .take) =
      { x with loop := x.loop.drain, taking := false } := by
  obtain ⟨n, hn⟩ : ∃ n, x.loop.hints = n + 1 := ⟨x.loop.hints - 1, by omega⟩
  have hwake : x.take .wake =
      { x with loop := { x.loop.tick with hints := n }, taking := true } := by
    rw [take, if_pos ⟨hwaiting, hhints⟩, hn]
    rfl
  rw [run, List.foldl_cons, hwake, hn, ← run, run_take n rfl rfl]
  simp [WatchLoop.drain, WatchLoop.tick, hwaiting, hhints]

/-! ## A check, move by move -/

section

variable {contents : ByteArray} {outcome : Observation}

theorem take_read_of_inl (hstand : x.loop.stand = .awake) (htaking : x.taking = false)
    (hlook : x.loop.watch.look x.found = .inl outcome) :
    x.take .read = { x with
      loop := { x.loop with stand := x.loop.afterCheck }
      seen := some x.found
      outcomes := x.outcomes ++ [outcome] } := by
  rw [take, hstand, htaking]
  simp only [WatchLoop.read, hstand, hlook]
  rfl

theorem take_read_of_inr (hstand : x.loop.stand = .awake) (htaking : x.taking = false)
    (hlook : x.loop.watch.look x.found = .inr contents) :
    x.take .read = { x with
      loop := { x.loop with stand := .handling contents }
      seen := some x.found } := by
  rw [take, hstand, htaking]
  simp only [WatchLoop.read, hstand, hlook, Option.toList_none, List.append_nil]

theorem take_handled (hstand : x.loop.stand = .handling contents) (result : Except String Unit) :
    x.take (.handled result) = { x with
      loop := { x.loop with
        watch := (x.loop.watch.settle contents result).1
        stand := x.loop.afterCheck }
      outcomes := x.outcomes ++ [(x.loop.watch.settle contents result).2] } := by
  rw [take]
  simp only [WatchLoop.handled, hstand, Option.toList_some]

end

/-! ## What a watch has still before it -/

/-- A hint is in the queue or on its way, or the loop is about to read. -/
def IsExpecting (x : Vigil) : Prop := 0 < x.loop.hints ∨ 0 < x.owed ∨ x.loop.stand = .awake

/-- The latest check has ended so: if it did not fail, what it has read is what was accepted. -/
def Told (x : Vigil) (o : Observation) : Prop :=
  ∃ r, x.seen = some r ∧
    (o.failure? = none → ∀ contents, r = .ok contents → x.loop.watch.last = some (.of contents))

/-- Loop, file and outcomes are in step. -/
structure Keeps (x : Vigil) : Prop where
  taking : x.taking = true → x.loop.stand = .awake
  /-- A change that the latest read has not seen is announced. -/
  hinted : ∀ r, x.seen = some r → r = x.found ∨ x.IsExpecting
  handling : ∀ contents, x.loop.stand = .handling contents → x.seen = some (.ok contents)
  told : (∀ contents, x.loop.stand ≠ .handling contents) →
    ∀ o, x.outcomes.getLast? = some o → x.Told o

theorem keeps_start (watch : Watch) (files : Files.Tree) : (start watch files).Keeps := by
  constructor
  case taking =>
    intro h
    cases h
  case hinted =>
    intro r h
    cases h
  case handling =>
    intro contents h
    cases h
  case told =>
    intro _ o h
    cases h

namespace Keeps

theorem awake (k : x.Keeps) (hwaiting : x.loop.stand.isWaiting = true) (hints : Nat)
    (taking : Bool) :
    Keeps { x with loop := { x.loop with stand := .awake, hints }, taking } := by
  constructor
  case taking => exact fun _ => rfl
  case hinted => exact fun r _ => Or.inr (Or.inr (Or.inr rfl))
  case handling => exact fun contents h => nomatch h
  case told =>
    intro _ o ho
    apply k.told _ o ho
    intro contents hstand
    rw [hstand] at hwaiting
    cases hwaiting

theorem hint (k : x.Keeps) (owed : Nat) : Keeps { x with loop := x.loop.hint, owed } where
  taking := k.taking
  hinted := fun _ _ => Or.inr (Or.inl (Nat.succ_pos x.loop.hints))
  handling := k.handling
  told := k.told

theorem ended {watch : Watch} (hpath : watch.path = x.loop.watch.path)
    (htaking : x.taking = false) {r : Except ReadError ByteArray}
    (hseen : r = x.found ∨ 0 < x.loop.hints ∨ 0 < x.owed) {o : Observation}
    (htold : o.failure? = none → ∀ contents, r = .ok contents →
      watch.last = some (.of contents)) :
    Keeps { x with
      loop := { x.loop with watch, stand := x.loop.afterCheck }
      seen := some r
      outcomes := x.outcomes ++ [o] } := by
  have hfound : x.files.read watch.path = x.found := congrArg x.files.read hpath
  constructor
  case taking => exact fun h => absurd (htaking.symm.trans h) Bool.false_ne_true
  case hinted =>
    intro r' hr
    obtain rfl := Option.some.inj hr
    rcases hseen with hseen | hhints | howed
    · exact Or.inl (hseen.trans hfound.symm)
    · exact Or.inr (Or.inl hhints)
    · exact Or.inr (Or.inr (Or.inl howed))
  case handling =>
    intro contents h
    simp only [WatchLoop.afterCheck] at h
    split at h <;> cases h
  case told =>
    intro _ o' ho
    rw [List.getLast?_concat] at ho
    obtain rfl := Option.some.inj ho
    exact ⟨r, rfl, htold⟩

theorem read (hstand : x.loop.stand = .awake) (htaking : x.taking = false) :
    (x.take .read).Keeps := by
  cases hlook : x.loop.watch.look x.found with
  | inl outcome =>
    rw [take_read_of_inl hstand htaking hlook]
    apply Keeps.ended rfl htaking (Or.inl rfl)
    intro _ contents hread
    obtain ⟨found, hfound, hlast, -⟩ | ⟨hnone, -⟩ | ⟨e, herror, -, -⟩ := Watch.look_eq_inl hlook
    · obtain rfl := Except.ok.inj (hfound.symm.trans hread)
      exact hlast
    · cases hnone.symm.trans hread
    · cases herror.symm.trans hread
  | inr contents =>
    rw [take_read_of_inr hstand htaking hlook]
    constructor
    case taking => exact fun h => absurd (htaking.symm.trans h) Bool.false_ne_true
    case hinted => exact fun r hr => Or.inl (Option.some.inj hr).symm
    case handling =>
      intro found h
      cases h
      exact congrArg some (Watch.look_eq_inr.mp hlook).1
    case told => exact fun hnot => absurd rfl (hnot contents)

theorem handled (k : x.Keeps) {contents : ByteArray} (hstand : x.loop.stand = .handling contents)
    (result : Except String Unit) : (x.take (.handled result)).Keeps := by
  have hseen := k.handling contents hstand
  have htaking : x.taking = false := by
    cases htaking : x.taking with
    | false => rfl
    | true => cases hstand.symm.trans (k.taking htaking)
  rw [take_handled hstand, hseen]
  apply Keeps.ended
  · cases result <;> rfl
  · exact htaking
  · rcases k.hinted _ hseen with hfound | hhints | howed | hawake
    · exact Or.inl hfound
    · exact Or.inr (Or.inl hhints)
    · exact Or.inr (Or.inr howed)
    · cases hstand.symm.trans hawake
  · intro hfine found hfound
    obtain rfl := Except.ok.inj hfound
    cases result with
    | ok _ => rfl
    | error reason => cases hfine

theorem stop (k : x.Keeps) : (x.take .stop).Keeps := by
  rw [Vigil.take, WatchLoop.stop]
  split
  · case isTrue hwaiting =>
    have hstand : x.loop.stand = .waiting := by
      cases hstand : x.loop.stand with
      | waiting => rfl
      | _ =>
        rw [hstand] at hwaiting
        cases hwaiting
    constructor
    case taking =>
      intro h
      cases hstand.symm.trans (k.taking h)
    case hinted =>
      intro r hr
      rcases k.hinted r hr with hseen | hhints | howed | hawake
      · exact Or.inl hseen
      · exact Or.inr (Or.inl hhints)
      · exact Or.inr (Or.inr (Or.inl howed))
      · cases hstand.symm.trans hawake
    case handling => exact fun contents h => nomatch h
    case told =>
      intro _ o ho
      exact k.told (fun contents h => nomatch hstand.symm.trans h) o ho
  · exact ⟨k.taking, k.hinted, k.handling, k.told⟩

/-- **Whatever happens next, everything stays in step.** -/
theorem take (k : x.Keeps) (m : Move) : (x.take m).Keeps := by
  cases m with
  | edit change =>
    -- the hint of the change is owed, whatever the loop is doing
    exact ⟨k.taking, fun r _ => Or.inr (Or.inr (Or.inl (Nat.succ_pos x.owed))), k.handling, k.told⟩
  | hint =>
    rw [Vigil.take]
    split
    · exact k.hint (x.owed - 1)
    · exact k
  | stray => exact k.hint x.owed
  | tick =>
    rw [Vigil.take, WatchLoop.tick]
    split
    · case isTrue hwaiting => exact k.awake hwaiting x.loop.hints x.taking
    · exact k
  | wake =>
    rw [Vigil.take]
    split
    · case isTrue h =>
      rw [WatchLoop.tick, if_pos h.1]
      exact k.awake h.1 (x.loop.hints - 1) true
    · exact k
  | take =>
    rw [Vigil.take]
    split
    · case isTrue htaking =>
      have hawake := k.taking htaking
      split
      · exact ⟨fun h => absurd h Bool.false_ne_true, k.hinted, k.handling, k.told⟩
      · exact ⟨fun _ => hawake, fun r hr => Or.inr (Or.inr (Or.inr hawake)), k.handling, k.told⟩
    · exact k
  | read =>
    by_cases h : x.loop.stand = .awake ∧ x.taking = false
    · exact Keeps.read h.1 h.2
    · rw [Vigil.take]
      split
      · case h_1 hstand htaking => exact absurd ⟨hstand, htaking⟩ h
      · exact k
  | handled result =>
    by_cases h : ∃ contents, x.loop.stand = .handling contents
    · obtain ⟨contents, hstand⟩ := h
      exact k.handled hstand result
    · have hnone : x.loop.handled result = (x.loop, none) := by
        unfold WatchLoop.handled
        split
        · case h_1 contents hstand => exact absurd ⟨contents, hstand⟩ h
        · rfl
      rw [Vigil.take, hnone]
      show Keeps { x with outcomes := x.outcomes ++ [] }
      rwa [List.append_nil]
  | stop => exact k.stop

theorem run (k : x.Keeps) (moves : List Move) : (x.run moves).Keeps := by
  induction moves generalizing x with
  | nil => exact k
  | cons m rest ih => exact ih (k.take m)

end Keeps

/-! ## Nothing is lost -/

/-- What holds of a watch at any time. -/
structure Vigilant (x : Vigil) : Prop where
  /-- After a check that did not fail, with nothing announced, a loop that waits has accepted what
  is in the file. -/
  upToDate : x.loop.stand = .waiting → x.loop.hints = 0 → x.owed = 0 →
    ∀ o, x.outcomes.getLast? = some o → o.failure? = none →
      ∀ contents, x.found = .ok contents → x.loop.watch.last = some (.of contents)
  /-- A change that the latest check has not seen is announced, whatever hints were thrown away. -/
  announced : ∀ r, x.seen = some r → r ≠ x.found → x.IsExpecting
  checked : x.outcomes ≠ [] → x.seen.isSome

theorem Keeps.vigilant (k : x.Keeps) : x.Vigilant := by
  constructor
  case upToDate =>
    intro hwaiting hhints howed o ho hfine contents hfound
    have hquiet : ¬ x.IsExpecting := by
      rintro (h | h | h)
      · omega
      · omega
      · cases hwaiting.symm.trans h
    obtain ⟨r, hseen, hlast⟩ := k.told (fun _ h => nomatch hwaiting.symm.trans h) o ho
    have hr : r = x.found := (k.hinted r hseen).resolve_right hquiet
    exact hlast hfine contents (hr.trans hfound)
  case announced =>
    intro r hseen hnew
    exact (k.hinted r hseen).resolve_left hnew
  case checked =>
    intro hsome
    by_cases h : ∃ contents, x.loop.stand = .handling contents
    · obtain ⟨contents, hstand⟩ := h
      rw [k.handling contents hstand]
      rfl
    · obtain ⟨r, hseen, -⟩ := k.told (not_exists.mp h) _ (List.getLast?_eq_some_getLast hsome)
      rw [hseen]
      rfl

/-- **No change is lost.**  However the changes of a file and their hints come between the moves of
the loop, a watch that waits with nothing announced has accepted the contents of the file, unless
its latest check has failed. -/
theorem run_vigilant (watch : Watch) (files : Files.Tree) (moves : List Move) :
    ((start watch files).run moves).Vigilant :=
  ((keeps_start watch files).run moves).vigilant

/-- A change that comes while the hints of another are taken is read by the same check. -/
example :
    let put (text : String) : Files.Tree → Files.Tree :=
      fun _ => ⟨[(["contract"], .file text.toUTF8)]⟩
    let x := (start ⟨"contract", none⟩ {}).run [.edit (put "a"), .hint, .wake, .edit (put "b"),
      .hint, .take, .take, .read, .handled (.ok ())]
    x.loop.stand.isWaiting = true ∧ x.loop.hints = 0 ∧ x.owed = 0 ∧
      x.outcomes = [.published (.of "b".toUTF8)] := by
  decide +kernel

end Vigil

end EventIntake
