import EventIntake.Lifecycle.Progress

/-!
# How long actions take

The course of something is how long it takes and what it comes to, or nothing when it never ends.
`actionsCourse` computes the course of a list of actions from the list alone, for a process that
has not stopped: what decides is the close timeout and whether hand-overs are accepted, the
`Regime`.  A wait for the report of the shutdown has no course, and a close that exceeds the timeout
is cut off there, whatever it would have come to.
-/

namespace EventIntake.Lifecycle

variable {α β γ δ : Type}

/-- How long something takes and what it comes to, or nothing when it never ends. -/
abbrev Course (β : Type) := Option (Nat × β)

namespace Course

def delay (t : Nat) : Course β → Course β
  | some (d, b) => some (t + d, b)
  | none => none

/-- Cut off at `limit`: an end exactly at the limit counts as one. -/
def cutOff (limit : Nat) : Course β → Nat × Option β
  | some (d, b) => if d ≤ limit then (d, some b) else (limit, none)
  | none => (limit, none)

def andThen (c : Course (Except String β)) (f : β → Course (Except String γ)) :
    Course (Except String γ) :=
  match c with
  | some (d, .ok b) => (f b).delay d
  | some (d, .error e) => some (d, .error e)
  | none => none

/-- Until the last of them has ended, but at least until `t`. -/
def latest (t : Nat) : List (Course β) → Course (List β)
  | [] => some (t, [])
  | some (d, b) :: rest =>
    match latest t rest with
    | some (d', bs) => some (max d d', b :: bs)
    | none => none
  | none :: _ => none

@[simp] theorem delay_delay (t u : Nat) (c : Course β) : (c.delay u).delay t = c.delay (t + u) := by
  cases c with
  | none => rfl
  | some e => simp [delay, Nat.add_assoc]

theorem delay_andThen (t : Nat) (c : Course (Except String β))
    (f : β → Course (Except String γ)) : (c.andThen f).delay t = (c.delay t).andThen f := by
  match c with
  | none => rfl
  | some (d, .ok b) => exact delay_delay t d (f b)
  | some (d, .error e) => rfl

theorem cutOff_delay (t limit : Nat) (c : Course β) :
    (c.delay t).cutOff (t + limit) = (t + (c.cutOff limit).1, (c.cutOff limit).2) := by
  match c with
  | none => rfl
  | some (d, b) =>
    simp only [delay, cutOff]
    by_cases hd : d ≤ limit
    · rw [if_pos hd, if_pos (Nat.add_le_add_left hd t)]
    · rw [if_neg hd, if_neg (fun h => hd (Nat.le_of_add_le_add_left h))]

theorem cutOff_fst (limit : Nat) (c : Course β) :
    (c.cutOff limit).1 = match c with | some (d, _) => min d limit | none => limit := by
  match c with
  | none => rfl
  | some (d, b) =>
    simp only [cutOff]
    split
    · case isTrue h => exact (Nat.min_eq_left h).symm
    · case isFalse h => exact (Nat.min_eq_right (Nat.le_of_not_le h)).symm

/-- What is cut off at `limit` has either run up to the limit or ended where it would have. -/
theorem cutOff_cases (limit : Nat) (c : Course β) :
    c.cutOff limit = (limit, none) ∨ ∃ d b, c = some (d, b) ∧ d ≤ limit ∧
      c.cutOff limit = (d, some b) := by
  match c with
  | none => exact .inl rfl
  | some (d, b) =>
    by_cases hd : d ≤ limit
    · exact .inr ⟨d, b, rfl, hd, if_pos hd⟩
    · exact .inl (if_neg hd)

theorem latest_delay (t u : Nat) (cs : List (Course β)) :
    latest (t + u) (cs.map (delay t)) = (latest u cs).delay t := by
  induction cs with
  | nil => rfl
  | cons c rest ih =>
    match c with
    | none => rfl
    | some (d, b) =>
      simp only [List.map_cons, delay, latest, ih]
      cases latest u rest with
      | none => rfl
      | some e => simp [Nat.add_max_add_left]

/-- The last of several ends no earlier than each of them. -/
theorem latest_cons_eq_some {t d : Nat} {c : Course β} {rest : List (Course β)} {bs : List β}
    (h : latest t (c :: rest) = some (d, bs)) : ∃ d₁ b₁ d₂ bs₂, c = some (d₁, b₁) ∧
      latest t rest = some (d₂, bs₂) ∧ d = max d₁ d₂ ∧ bs = b₁ :: bs₂ := by
  match c with
  | none => cases h
  | some (d₁, b₁) =>
    simp only [latest] at h
    split at h
    · case h_1 d₂ bs₂ hrest =>
      cases h
      exact ⟨d₁, b₁, d₂, bs₂, rfl, hrest, rfl, rfl⟩
    · cases h

theorem le_of_andThen {c : Course (Except String β)} {f : β → Course (Except String γ)} {t : Nat}
    {r : Except String γ} (h : c.andThen f = some (t, r)) :
    ∃ t' r', c = some (t', r') ∧ t' ≤ t := by
  match c with
  | none => cases h
  | some (d, .error e) =>
    cases h
    exact ⟨_, _, rfl, Nat.le_refl _⟩
  | some (d, .ok b) =>
    refine ⟨d, .ok b, rfl, ?_⟩
    simp only [andThen] at h
    cases hf : f b with
    | none =>
      rw [hf] at h
      cases h
    | some e =>
      rw [hf] at h
      cases h
      exact Nat.le_add_right _ _

end Course

/-- What decides how long an action takes. -/
structure Regime where
  closeTimeout : Duration
  accepting : Bool

/-- A process under a regime, and not stopped. -/
structure World.Under (w : World α) (g : Regime) : Prop where
  closeTimeout : w.coordinator.closeTimeout = g.closeTimeout
  accepting : w.coordinator.accepting = g.accepting
  report : w.coordinator.report = none

/-- The course of a worker once that of its start is known. -/
def Course.enroll (g : Regime) (number : Nat) (name : String) (closeTime : Nat) :
    Course (Except String (Value α)) → Course (Except String Unit)
  | some (d, .ok _) =>
    if g.accepting then some (d, .ok ())
    else some (d + closeTime, .error (refusalMessage name))
  | some (d, .error e) =>
    some (d, .error ("ingress worker " ++ toString number ++ " failed to start: " ++ e))
  | none => none

/-- What a deployment comes to, from what its workers came to within the deadline. -/
def deployed (deadline : Duration) (workers : Nat) :
    Nat × Option (List (Except String Unit)) → Nat × Except String (Value α)
  | (d, some results) =>
    match firstFailure results with
    | some e => (d, .error e)
    | none => (d, .ok (.deployed workers))
  | (d, none) =>
    (d, .error ("deployment of " ++ toString workers ++ " workers did not finish within "
      ++ deadline.text))

mutual

/-- The course of an action, which comes to a new value. -/
def Action.course (g : Regime) : Action α → Value α → Course (Except String (Value α))
  | .log _, value | .state, value | .registered, value | .spawnTrigger _, value =>
    some (0, .ok value)
  | .value v, _ => some (0, .ok (.given v))
  | .sleep time, value => some (time.millis, .ok value)
  | .fail message, _ => some (0, .error message)
  | .hang, _ | .trigger _, _ => none
  | .register r, value =>
    if g.accepting then some (0, .ok value)
    else some ((resourceCourse g r).1, .error (refusalMessage r.name))
  | .tryRegister r, value =>
    if g.accepting then some (0, .ok value) else some ((resourceCourse g r).1, .ok value)
  | .deploy deadline workers, _ =>
    some (deployed deadline workers.length
      ((Course.latest 0 (workersCourses g workers 0)).cutOff deadline.millis))

/-- The course of the close of a resource, which is cut off at the close timeout. -/
def resourceCourse (g : Regime) : Resource (Action α) → Nat × Option (Except String (Value α))
  | ⟨_, _, close⟩ => (actionsCourse g close .nothing).cutOff g.closeTimeout.millis

def actionsCourse (g : Regime) : List (Action α) → Value α → Course (Except String (Value α))
  | [], value => some (0, .ok value)
  | a :: rest, value => (a.course g value).andThen fun value => actionsCourse g rest value

/-- The courses of workers, the first of which has the given number. -/
def workersCourses (g : Regime) :
    List (List (Action α) × Resource (Action α)) → Nat → List (Course (Except String Unit))
  | [], _ => []
  | (start, r) :: rest, number =>
    (actionsCourse g start .nothing).enroll g number r.name (resourceCourse g r).1
      :: workersCourses g rest (number + 1)

end

theorem resourceCourse_eq (g : Regime) (r : Resource (Action α)) :
    resourceCourse g r = (actionsCourse g r.close .nothing).cutOff g.closeTimeout.millis := by
  cases r
  rw [resourceCourse]

theorem Course.delay_enroll (g : Regime) (number : Nat) (name : String) (closeTime t : Nat)
    (c : Course (Except String (Value α))) :
    (c.enroll g number name closeTime).delay t = (c.delay t).enroll g number name closeTime := by
  match c with
  | none => rfl
  | some (d, .ok v) =>
    cases hacc : g.accepting with
    | true => simp [enroll, delay, hacc]
    | false => simp [enroll, delay, hacc, Nat.add_assoc]
  | some (d, .error e) => rfl

theorem Course.le_of_enroll {g : Regime} {number closeTime t : Nat} {name : String}
    {c : Course (Except String (Value α))} {r : Except String Unit}
    (h : c.enroll g number name closeTime = some (t, r)) : ∃ t' r', c = some (t', r') ∧ t' ≤ t := by
  match c with
  | none => cases h
  | some (d, .ok v) =>
    refine ⟨d, .ok v, rfl, ?_⟩
    simp only [enroll] at h
    split at h
    · cases h
      exact Nat.le_refl _
    · cases h
      exact Nat.le_add_right _ _
  | some (d, .error e) =>
    cases h
    exact ⟨_, _, rfl, Nat.le_refl _⟩

theorem deployed_fst (deadline : Duration) (n : Nat)
    (c : Nat × Option (List (Except String Unit))) :
    (deployed deadline n c : Nat × Except String (Value α)).1 = c.1 := by
  match c with
  | (d, none) => rfl
  | (d, some results) =>
    simp only [deployed]
    split <;> rfl

theorem deployed_add (deadline : Duration) (n t : Nat)
    (c : Nat × Option (List (Except String Unit))) :
    (deployed deadline n (t + c.1, c.2) : Nat × Except String (Value α)) =
      (t + (deployed deadline n c : Nat × Except String (Value α)).1,
        (deployed deadline n c : Nat × Except String (Value α)).2) := by
  match c with
  | (d, none) => rfl
  | (d, some results) =>
    simp only [deployed]
    split <;> rfl

end EventIntake.Lifecycle
