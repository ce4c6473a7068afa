import EventIntake.Proofs.Receiver.Launch

/-!
# The deployment of workers

Workers are started together, and each start takes its time, fails or hangs.  What the deployment
comes to is decided by its deadline, and then by the number of the first worker that has failed, not
by which start has failed first.  Each worker that is up in time belongs to the coordinator, in the
order in which they came up, and when the phase fails these are closed, the last one first
(`deploy_ends`).
-/

namespace EventIntake

open Lifecycle (Action Course Entry Phase Regime Reply Resource Session Value actionsCourse arrivals
  begins closeTime closingOrder deployed entriesOf firstFailure workersCourses)

def Conduct.endsBy (limit : Nat) (c : Conduct) : Bool := c.time.any (·.millis ≤ limit)

theorem Conduct.endsBy_iff {limit : Nat} {c : Conduct} :
    c.endsBy limit ↔ ∃ time, c.time = some time ∧ time.millis ≤ limit := by
  rw [endsBy, Option.any_eq_true]
  simp only [decide_eq_true_eq]

/-- When it is no longer waited for: at its end, or at the deadline. -/
def Conduct.waitedFor (deadline : Nat) (c : Conduct) : Nat :=
  match c.time with
  | some time => min time.millis deadline
  | none => deadline

/-- What a start comes to that ends. -/
def Conduct.result (c : Conduct) : Except String (Value Unit) :=
  match c.failure with
  | some reason => .error reason
  | none => .ok .nothing

namespace Deployment

/-- The start of each worker, and what is handed over when it is up. -/
abbrev Starts := List (Conduct × Resource (Action Unit))

def workers (starts : Starts) : List (List (Action Unit) × Resource (Action Unit)) :=
  starts.map fun x => (x.1.actions, x.2)

/-- The workers that are up by `limit`, each with how long its start takes. -/
def upBy (limit : Nat) (starts : Starts) : List (Nat × Resource (Action Unit)) :=
  starts.filterMap fun x =>
    match x.1 with
    | ⟨some time, none⟩ => if time.millis ≤ limit then some (time.millis, x.2) else none
    | _ => none

/-- How long the deployment takes: until the last start has ended, or until the deadline. -/
def span (deadline : Nat) (starts : Starts) : Nat :=
  (starts.map (·.1.waitedFor deadline)).foldr max 0

def failureText (number : Nat) (reason : String) : String :=
  "ingress worker " ++ toString number ++ " failed to start: " ++ reason

def lateText (deadline : Duration) (starts : Starts) : String :=
  "deployment of " ++ toString starts.length ++ " workers did not finish within " ++ deadline.text

/-! ## What a deployment comes to -/

theorem course_conduct (g : Regime) (c : Conduct) :
    actionsCourse g c.actions .nothing = c.time.map fun time => (time.millis, c.result) := by
  obtain ⟨time, failure⟩ := c
  cases time with
  | none => simp [Conduct.actions, actionsCourse, Action.course, Course.andThen]
  | some time =>
    cases failure <;> simp [Conduct.actions, Conduct.result, actionsCourse, Action.course,
      Course.andThen, Course.delay]

variable {g : Regime} {deadline : Duration} {limit : Nat} {starts : Starts}

theorem arrivals_workers (g : Regime) (limit : Nat) (starts : Starts) :
    arrivals g limit (workers starts) = upBy limit starts := by
  rw [arrivals, workers, upBy, List.filterMap_map]
  refine List.filterMap_congr fun x _ => ?_
  simp only [Function.comp_apply, course_conduct]
  obtain ⟨⟨time, failure⟩, r⟩ := x
  cases time with
  | none => rfl
  | some time =>
    cases failure with
    | some reason => rfl
    | none => by_cases hle : time.millis ≤ limit <;> simp [Course.okBy?, Conduct.result, hle]

def results : Nat → Starts → List (Except String Unit)
  | _, [] => []
  | number, x :: rest =>
    (match x.1.failure with
      | some reason => .error (failureText number reason)
      | none => .ok ()) :: results (number + 1) rest

theorem courses_cons (hacc : g.accepting = true) (number : Nat)
    (x : Conduct × Resource (Action Unit)) (rest : Starts) :
    workersCourses g (workers (x :: rest)) number =
      (x.1.time.map fun time => (time.millis,
        match x.1.failure with
        | some reason => .error (failureText number reason)
        | none => .ok ())) :: workersCourses g (workers rest) (number + 1) := by
  rw [workers, List.map_cons, workersCourses, course_conduct, ← workers]
  refine congrArg (· :: _) ?_
  cases x.1.time with
  | none => rw [Option.map_none, Option.map_none, Course.enroll]
  | some time =>
    rw [Option.map_some, Option.map_some, Conduct.result]
    cases x.1.failure with
    | none => rw [Course.enroll, if_pos hacc]
    | some reason =>
      rw [Course.enroll]
      rfl

theorem span_cons (x : Conduct × Resource (Action Unit)) (rest : Starts) :
    span limit (x :: rest) = max (x.1.waitedFor limit) (span limit rest) := rfl

theorem span_le (limit : Nat) (starts : Starts) : span limit starts ≤ limit := by
  induction starts with
  | nil => exact Nat.zero_le _
  | cons x rest ih =>
    rw [span_cons]
    refine Nat.max_le.mpr ⟨?_, ih⟩
    rw [Conduct.waitedFor]
    split
    · exact Nat.min_le_right _ _
    · exact Nat.le_refl _

/-- When all starts end in time, so does the deployment, with the last of them. -/
theorem latest_of_endsBy (hacc : g.accepting = true) (number : Nat)
    (h : ∀ x ∈ starts, x.1.endsBy limit) :
    Course.latest 0 (workersCourses g (workers starts) number) =
      some (span limit starts, results number starts) := by
  induction starts generalizing number with
  | nil => rfl
  | cons x rest ih =>
    obtain ⟨hx, hrest⟩ := List.forall_mem_cons.mp h
    obtain ⟨time, htime, hle⟩ := Conduct.endsBy_iff.mp hx
    have hwaited : x.1.waitedFor limit = time.millis := by
      rw [Conduct.waitedFor, htime]
      exact Nat.min_eq_left hle
    rw [courses_cons hacc, htime, Option.map_some, Course.latest, ih _ hrest, span_cons, hwaited]
    rfl

/-- When one does not, the deadline cuts the deployment off. -/
theorem latest_of_late (h : ∃ x ∈ starts, ¬ x.1.endsBy limit) :
    (Course.latest 0 (workersCourses g (workers starts) 0)).cutOff limit = (limit, none) := by
  rcases Course.cutOff_cases limit (Course.latest 0 (workersCourses g (workers starts) 0)) with
    hcut | ⟨d, bs, hlatest, hd, -⟩
  · exact hcut
  · obtain ⟨x, hx, hlate⟩ := h
    refine absurd ?_ hlate
    obtain ⟨i, hi⟩ := Lifecycle.mem_workersCourses g (List.mem_map_of_mem hx) 0
    obtain ⟨d', b, hsame, hle, -⟩ := Course.mem_of_latest hlatest hi
    obtain ⟨t, r, hcourse, hwithin⟩ := Course.le_of_enroll hsame
    rw [course_conduct] at hcourse
    obtain ⟨time, htime, hends⟩ := Option.map_eq_some_iff.mp hcourse
    have hmillis : time.millis = t := congrArg Prod.fst hends
    exact Conduct.endsBy_iff.mpr ⟨time, htime, by omega⟩

theorem span_of_late (h : ∃ x ∈ starts, ¬ x.1.endsBy limit) : span limit starts = limit := by
  refine Nat.le_antisymm (span_le limit starts) ?_
  obtain ⟨x, hx, hlate⟩ := h
  induction starts with
  | nil => cases hx
  | cons y rest ih =>
    rw [span_cons]
    rcases List.mem_cons.mp hx with rfl | hx
    · refine Nat.le_trans (Nat.le_of_eq ?_) (Nat.le_max_left _ _)
      rw [Conduct.waitedFor]
      split
      · case _ time htime =>
        have hlt : ¬ time.millis ≤ limit := fun hle =>
          hlate (Conduct.endsBy_iff.mpr ⟨_, htime, hle⟩)
        omega
      · rfl
    · exact Nat.le_trans (ih hx) (Nat.le_max_right _ _)

theorem firstFailure_eq_none (number : Nat) :
    firstFailure (results number starts) = none ↔ ∀ x ∈ starts, x.1.failure = none := by
  induction starts generalizing number with
  | nil => simp [results, firstFailure]
  | cons x rest ih =>
    rw [List.forall_mem_cons, ← ih (number + 1), results]
    cases x.1.failure <;> simp [firstFailure]

/-- The first worker that fails is the one that is told of. -/
theorem firstFailure_split (number : Nat) {before after : Starts}
    {x : Conduct × Resource (Action Unit)} (hbefore : ∀ y ∈ before, y.1.failure = none)
    {reason : String} (hx : x.1.failure = some reason) :
    firstFailure (results number (before ++ x :: after)) =
      some (failureText (number + before.length) reason) := by
  induction before generalizing number with
  | nil => simp [results, firstFailure, hx]
  | cons y before ih =>
    obtain ⟨hy, hbefore⟩ := List.forall_mem_cons.mp hbefore
    rw [List.cons_append, results, hy, firstFailure, ih _ hbefore, List.length_cons, Nat.add_assoc,
      Nat.add_comm 1]

def verdict (deadline : Duration) (starts : Starts) : Except String (Value Unit) :=
  if ∀ x ∈ starts, x.1.endsBy deadline.millis then
    match firstFailure (results 0 starts) with
    | some e => .error e
    | none => .ok (.deployed starts.length)
  else .error (lateText deadline starts)

theorem course_deploy (hacc : g.accepting = true) (deadline : Duration) (starts : Starts)
    (value : Value Unit) : (Action.deploy deadline (workers starts)).course g value =
      some (span deadline.millis starts, verdict deadline starts) := by
  have hlength : (workers starts).length = starts.length := List.length_map _
  rw [Action.course, hlength, verdict]
  split
  · case isTrue h =>
    rw [latest_of_endsBy hacc 0 h, Course.cutOff, if_pos (span_le _ _), deployed]
    cases firstFailure (results 0 starts) <;> rfl
  · case isFalse h =>
    have hlate : ∃ x ∈ starts, ¬ x.1.endsBy deadline.millis := by simpa using h
    rw [latest_of_late hlate, span_of_late hlate]
    rfl

def phase (name : String) (limit deadline : Duration) (starts : Starts) : Phase Unit :=
  ⟨name, limit, [.deploy deadline (workers starts)]⟩

theorem course_phase (hacc : g.accepting = true) (name : String) {limit : Duration}
    (hlimit : deadline.millis ≤ limit.millis) :
    (phase name limit deadline starts).course g =
      (span deadline.millis starts, some (verdict deadline starts)) := by
  have hbody : actionsCourse g [.deploy deadline (workers starts)] .nothing =
      some (span deadline.millis starts, verdict deadline starts) := by
    rw [actionsCourse, course_deploy hacc]
    cases verdict deadline starts <;> rfl
  have hspan : span deadline.millis starts ≤ limit.millis := Nat.le_trans (span_le _ _) hlimit
  rw [Phase.course, phase, hbody, Course.cutOff, if_pos hspan]

theorem phase_isCalm (name : String) (limit deadline : Duration) (starts : Starts) :
    (phase name limit deadline starts).IsCalm := by
  refine .inr ⟨_, _, rfl, fun x hx a ha => ?_⟩
  obtain ⟨y, -, rfl⟩ := List.mem_map.mp hx
  exact Conduct.isTimed_of_mem ha

/-- How a deployment ends that began with `s`, when `rs` was registered: with `up` in the order in
which it came up. -/
structure Ends (closeTimeout : Duration) (rs : List (Resource (Action Unit))) (name : String)
    (deadline : Duration) (starts : Starts) (s s' : Session Unit) (reply : Reply Unit)
    (up : List (Nat × Resource (Action Unit))) : Prop where
  raised : up.Perm (upBy deadline.millis starts)
  inOrder : up.Pairwise fun x y => x.1 ≤ y.1
  /-- It goes well when every worker is up no later than at the deadline. -/
  well : reply = .value (.deployed starts.length) ↔
    ∀ x ∈ starts, x.1.endsBy deadline.millis ∧ x.1.failure = none
  /-- Of several that fail in time the first by its number is told of. -/
  failed : (∀ x ∈ starts, x.1.endsBy deadline.millis) →
    ∀ before x after reason, starts = before ++ x :: after →
      (∀ y ∈ before, y.1.failure = none) → x.1.failure = some reason →
        reply = .bootstrapError (.phaseFailed name (failureText before.length reason))
  /-- A start that is too late counts for more than any that has failed. -/
  late : (∃ x ∈ starts, ¬ x.1.endsBy deadline.millis) →
    reply = .bootstrapError (.phaseFailed name (lateText deadline starts))
  registered : ∀ v, reply = .value v → s'.now = s.now + span deadline.millis starts ∧
    s'.world.coordinator.entries = entriesOf (rs ++ up.map Prod.snd)
  /-- As soon as it has failed, all that is registered is closed, and nothing else that was. -/
  closed : ∀ e, reply = .bootstrapError e →
    ∃ order : List (Entry Unit), order.Perm (entriesOf (rs ++ up.map Prod.snd)) ∧
      order.Pairwise Entry.ClosesBefore ∧
      s'.world.begun (rs.length + up.length) =
        begins ⟨closeTimeout, false⟩ (s.now + span deadline.millis starts) order ∧
      s'.now = s.now + span deadline.millis starts + closeTime ⟨closeTimeout, false⟩ order ∧
      s'.world.coordinator.report = some ⟨.fatalBootstrap, order.map (·.resource.name),
        order.filterMap (·.resource.failure? ⟨closeTimeout, false⟩)⟩

theorem verdict_of_endsBy (h : ∀ x ∈ starts, x.1.endsBy deadline.millis) :
    verdict deadline starts = match firstFailure (results 0 starts) with
      | some e => .error e
      | none => .ok (.deployed starts.length) :=
  if_pos h

theorem verdict_of_late (h : ∃ x ∈ starts, ¬ x.1.endsBy deadline.millis) :
    verdict deadline starts = .error (lateText deadline starts) := by
  obtain ⟨x, hx, hlate⟩ := h
  exact if_neg fun hall => hlate (hall x hx)

theorem verdict_eq_ok {v : Value Unit} (h : verdict deadline starts = .ok v) :
    v = .deployed starts.length ∧
      ∀ x ∈ starts, x.1.endsBy deadline.millis ∧ x.1.failure = none := by
  by_cases hends : ∀ x ∈ starts, x.1.endsBy deadline.millis
  · rw [verdict_of_endsBy hends] at h
    split at h
    · cases h
    · case _ hnone =>
      cases h
      exact ⟨rfl, fun x hx => ⟨hends x hx, (firstFailure_eq_none 0).mp hnone x hx⟩⟩
  · cases (if_neg hends).symm.trans h

theorem verdict_of_well (h : ∀ x ∈ starts, x.1.endsBy deadline.millis ∧ x.1.failure = none) :
    verdict deadline starts = .ok (.deployed starts.length) := by
  have hnone : firstFailure (results 0 starts) = none :=
    (firstFailure_eq_none 0).mpr fun x hx => (h x hx).2
  rw [verdict_of_endsBy fun x hx => (h x hx).1, hnone]

def answer (name : String) : Except String (Value Unit) → Reply Unit
  | .ok v => .value v
  | .error reason => .bootstrapError (.phaseFailed name reason)

theorem answer_eq_deployed (name : String) :
    answer name (verdict deadline starts) = .value (.deployed starts.length) ↔
      ∀ x ∈ starts, x.1.endsBy deadline.millis ∧ x.1.failure = none := by
  constructor
  · intro h
    cases hverdict : verdict deadline starts with
    | ok v => exact (verdict_eq_ok hverdict).2
    | error reason =>
      rw [hverdict] at h
      cases h
  · intro h
    rw [verdict_of_well h, answer]

variable {closeTimeout : Duration} {names : List String} {rs : List (Resource (Action Unit))}
  {name : String} {wait : Duration}

theorem reply_eq (hwait : deadline.millis ≤ wait.millis) {start : Nat} {s' : Session Unit}
    {reply : Reply Unit} (h : Session.Phasing closeTimeout names rs
      (phase name wait deadline starts) start s' (.answered reply)) :
    reply = answer name (verdict deadline starts) := by
  have hcourse : (phase name wait deadline starts).course ⟨closeTimeout, true⟩ = _ :=
    course_phase rfl name hwait
  cases h with
  | ran v h' =>
    have hresult := h'.result
    rw [hcourse] at hresult
    rw [Option.some.inj hresult, answer]
  | failed launched hlate h' =>
    rw [Phase.inTime_iff, hcourse] at hlate
    rw [Phase.failure, hcourse]
    cases hverdict : verdict deadline starts with
    | ok v => exact absurd ⟨v, congrArg some hverdict⟩ hlate
    | error reason => rfl

/-- What the phase launches came up in time and in order. -/
theorem raised_of_launches (hwait : deadline.millis ≤ wait.millis)
    {launched : List (Resource (Action Unit))}
    (h : (phase name wait deadline starts).Launches g launched) :
    ∃ up : List (Nat × Resource (Action Unit)), launched = up.map Prod.snd ∧
      up.Perm (upBy deadline.millis starts) ∧ up.Pairwise fun x y => x.1 ≤ y.1 := by
  obtain ⟨up, hlaunched, hup, hsorted⟩ := h
  refine ⟨up, hlaunched, hup.trans (List.Perm.of_eq ?_), hsorted⟩
  have harrivals : (phase name wait deadline starts).arrivals g =
      arrivals g (min deadline.millis wait.millis) (workers starts) := rfl
  rw [harrivals, arrivals_workers, Nat.min_eq_left hwait]

/-- **A deployment ends as its starts say, and all that has come up is registered by then.** -/
theorem deploy_ends {s : Session Unit} (hs : s.Starting closeTimeout names rs) (name : String)
    {wait deadline : Duration} (hwait : deadline.millis ≤ wait.millis) (starts : Starts) :
    ∃ s' reply up, s.perform (.phase (phase name wait deadline starts)) = (s', reply) ∧
      Ends closeTimeout rs name deadline starts s s' reply up := by
  obtain ⟨s', reply, hperform, hphasing⟩ := hs.phasing (phase_isCalm name wait deadline starts)
  have hreply := reply_eq hwait hphasing
  have htime : (phase name wait deadline starts).time ⟨closeTimeout, true⟩ =
      span deadline.millis starts := congrArg Prod.fst (course_phase rfl name hwait)
  -- what was launched is held by then, or else it is what the pass goes over
  obtain ⟨up, hraised, hsorted, hregistered, hclosed⟩ :
      ∃ up : List (Nat × Resource (Action Unit)), up.Perm (upBy deadline.millis starts) ∧
        up.Pairwise (fun x y => x.1 ≤ y.1) ∧
        (∀ v, reply = .value v → s'.world.now = s.now + span deadline.millis starts ∧
          s'.world.Ready closeTimeout .bootstrapping (rs ++ up.map Prod.snd)) ∧
        (∀ e, reply = .bootstrapError e → s'.world.Passing ⟨closeTimeout, false⟩
          (rs ++ up.map Prod.snd).length .fatalBootstrap (s.now + span deadline.millis starts)
          (closingOrder (entriesOf (rs ++ up.map Prod.snd))) 0 ∧
            s'.world.threads[0]? = some .finished) := by
    rw [← htime]
    cases hphasing with
    | ran v h =>
      obtain ⟨launched, hlaunches, hready⟩ := h.launched
      obtain ⟨up, rfl, hup, hsorted⟩ := raised_of_launches hwait hlaunches
      exact ⟨up, hup, hsorted, fun _ _ => ⟨h.now, hready⟩, nofun⟩
    | failed launched hlate h hfinished =>
      obtain ⟨up, rfl, hup, hsorted⟩ := raised_of_launches hwait h.launches
      exact ⟨up, hup, hsorted, nofun, fun _ _ => ⟨h.passing, hfinished⟩⟩
  refine ⟨s', reply, up, hperform, ?_⟩
  constructor
  case raised => exact hraised
  case inOrder => exact hsorted
  case well => rw [hreply, answer_eq_deployed]
  case failed =>
    rintro hends before x after reason rfl hbefore hx
    rw [hreply, verdict_of_endsBy hends, firstFailure_split 0 hbefore hx, Nat.zero_add, answer]
  case late =>
    intro hlate
    rw [hreply, verdict_of_late hlate, answer]
  case registered =>
    intro v hv
    obtain ⟨hnow, hready⟩ := hregistered v hv
    exact ⟨hnow, hready.entries⟩
  case closed =>
    intro e he
    obtain ⟨hpassing, hfinished⟩ := hclosed e he
    obtain ⟨hreport, -, hnow, -, hbegun, -⟩ := hpassing.of_finished hfinished
    rw [List.length_append, List.length_map] at hbegun
    exact ⟨_, Lifecycle.closingOrder_perm _,
      Lifecycle.closingOrder_pairwise (Lifecycle.entriesOf_pairwise _), hbegun, hnow, hreport⟩

/-- Two workers, the second of which is up first. -/
def slowAndFast : Starts :=
  [({ time := some (.ofMillis 20) }, ⟨"slow", .background, []⟩),
    ({ time := some (.ofMillis 10) }, ⟨"fast", .background, []⟩)]

theorem deploy_ends_well : ∃ s' up,
    (Session.start (.ofSecs 5) : Session Unit).perform
      (.phase (phase "ingress-deployment" (.ofSecs 10) (.ofSecs 8) slowAndFast)) =
        (s', .value (.deployed 2)) ∧
    Ends (.ofSecs 5) [] "ingress-deployment" (.ofSecs 8) slowAndFast (.start (.ofSecs 5)) s'
      (.value (.deployed 2)) up := by
  obtain ⟨s', reply, up, hperform, hends⟩ := deploy_ends (Receiver.starting_start (.ofSecs 5))
    "ingress-deployment" (by simp [Duration.millis_ofSecs] :
      (Duration.ofSecs 8).millis ≤ (Duration.ofSecs 10).millis) slowAndFast
  obtain rfl := hends.well.mpr
    (by simp [slowAndFast, Conduct.endsBy, Duration.millis_ofSecs])
  exact ⟨s', up, hperform, hends⟩

end Deployment

end EventIntake
