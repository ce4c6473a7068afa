import EventIntake.Proofs.Lifecycle.Ledger
import EventIntake.Lifecycle.Session

/-!
# Weights

Whatever a process has still to do has a weight, and so has what the coordinator holds, which the
pass will have to close.  A step moves weight from one to another, as when a resource is handed over
or the pass takes all of them, but the sum goes down with each step (`Session.step_weight_lt`).
-/

namespace EventIntake.Lifecycle

variable {α : Type}

/-! ## Weights of the operations -/

def threadsWeight (threads : List (Thread α)) : Nat := threads.foldr (fun t n => t.weight + n) 0

theorem threadsWeight_append (l l' : List (Thread α)) :
    threadsWeight (l ++ l') = threadsWeight l + threadsWeight l' := by
  induction l with
  | nil => exact (Nat.zero_add _).symm
  | cons t l ih =>
    change t.weight + threadsWeight (l ++ l') = t.weight + threadsWeight l + threadsWeight l'
    omega

theorem threadsWeight_set {l : List (Thread α)} {i : Nat} {t : Thread α} (ht : l[i]? = some t)
    (t' : Thread α) : threadsWeight (l.set i t') + t.weight = threadsWeight l + t'.weight := by
  induction l generalizing i with
  | nil => simp at ht
  | cons u l ih =>
    cases i with
    | zero =>
      simp only [List.getElem?_cons_zero, Option.some.injEq] at ht
      subst ht
      change t'.weight + threadsWeight l + u.weight = u.weight + threadsWeight l + t'.weight
      omega
    | succ i =>
      have hrest := ih (by simpa using ht)
      change u.weight + threadsWeight (l.set i t') + t.weight =
        u.weight + threadsWeight l + t'.weight
      omega

theorem entriesWeight_append (l l' : List (Entry α)) :
    entriesWeight (l ++ l') = entriesWeight l + entriesWeight l' := by
  induction l with
  | nil => exact (Nat.zero_add _).symm
  | cons e l ih =>
    change resourceWeight e.resource + entriesWeight (l ++ l') =
      resourceWeight e.resource + entriesWeight l + entriesWeight l'
    omega

theorem entriesWeight_perm {l l' : List (Entry α)} (h : l.Perm l') :
    entriesWeight l = entriesWeight l' := by
  induction h with
  | nil => rfl
  | cons e h ih => exact congrArg (resourceWeight e.resource + ·) ih
  | swap e f l =>
    change resourceWeight f.resource + (resourceWeight e.resource + entriesWeight l) =
      resourceWeight e.resource + (resourceWeight f.resource + entriesWeight l)
    omega
  | trans _ _ ih ih' => exact ih.trans ih'

theorem resourceWeight_eq (r : Resource (Action α)) :
    resourceWeight r = 4 + actionsWeight r.close := by
  cases r
  rfl

def Stepped.weight : Stepped α → Nat
  | .inl job => job.weight
  | .inr _ => 0

namespace World

theorem weight_eq (w : World α) :
    w.weight = threadsWeight w.threads + entriesWeight w.coordinator.entries := rfl

@[simp] theorem weight_record (w : World α) (e : Event) : (w.record e).weight = w.weight := rfl

@[simp] theorem weight_note (w : World α) (n : Note) : (w.note n).weight = w.weight := rfl

@[simp] theorem weight_giveUp (w : World α) (l : List (Closing Unit)) :
    (w.giveUp l).weight = w.weight := rfl

theorem weight_spawn (w : World α) (t : Thread α) : (w.spawn t).weight = w.weight + t.weight := by
  have hsum := threadsWeight_append w.threads [t]
  simp only [weight_eq, spawn] at hsum ⊢
  change threadsWeight (w.threads ++ [t]) + _ = _
  rw [hsum]
  change _ + (t.weight + 0) + _ = _
  omega

theorem weight_trigger_le (w : World α) (cause : Cause) :
    (w.trigger cause).weight ≤ w.weight + 1 := by
  cases hacc : w.coordinator.accepting with
  | true =>
    -- what the coordinator held is what the pass has to close
    have hperm := entriesWeight_perm (closingOrder_perm w.coordinator.entries)
    have hsum := threadsWeight_append w.threads
      [.pass ⟨cause, none, closingOrder w.coordinator.entries, [], []⟩]
    simp only [trigger, note, Coordinator.drain, hacc, if_true, spawn, weight_eq]
    rw [hsum]
    change _ + (1 + 0 + entriesWeight (closingOrder w.coordinator.entries) + 0) + 0 ≤ _
    omega
  | false =>
    simp only [trigger, note, Coordinator.drain, hacc, Bool.false_eq_true, if_false]
    exact Nat.le_succ _

@[simp] theorem weight_leaveBootstrap (w : World α) (s : State) :
    (w.leaveBootstrap s).1.weight = w.weight := by
  unfold leaveBootstrap Coordinator.leaveBootstrap
  split
  · case h_1 c hleft =>
    split at hleft
    · cases hleft
      rfl
    · cases hleft
  · rfl

/-- A hand-over moves the weight of the resource to the coordinator or to the close. -/
theorem weight_register (w : World α) (r : Resource (Action α)) :
    (∃ w', w.register r = (w', none) ∧ w'.weight = w.weight + resourceWeight r) ∨
      ∃ w' c, w.register r = (w', some c) ∧ w'.weight = w.weight ∧
        c.work.weight + 3 = resourceWeight r := by
  cases hacc : w.coordinator.accepting with
  | true =>
    refine .inl ⟨_, register_of_accepting hacc r, ?_⟩
    rw [weight_eq, entriesWeight_append, weight_eq]
    change threadsWeight w.threads + (_ + (resourceWeight r + 0)) = _
    omega
  | false =>
    refine .inr ⟨_, _, register_of_refusing hacc r, rfl, ?_⟩
    rw [resourceWeight_eq]
    change 1 + 0 + actionsWeight r.close + 3 = 4 + actionsWeight r.close
    omega

@[simp] theorem weight_endClose (w : World α) (c : Closing (Work α))
    (result : Option (Except String (Value α))) : (w.endClose c result).1.weight = w.weight := by
  match result with
  | some (.ok _) => rfl
  | some (.error _) => rfl
  | none => rfl

@[simp] theorem weight_endRefusal (w : World α) (c : Closing (Work α))
    (result : Option (Except String (Value α))) : (w.endRefusal c result).weight = w.weight := by
  have hend := w.weight_endClose c result
  unfold endRefusal
  cases h : w.endClose c result with
  | mk w' outcome =>
    rw [h] at hend
    cases outcome with
    | ok u => exact hend
    | error e => exact hend

end World

/-! ## Steps of work -/

theorem runningWeight_waiting (workers : List (List (Action α) × Resource (Action α))) (i : Nat) :
    runningWeight ((workers.zipIdx i).map fun ((start, r), i) => Worker.waiting i start r) ≤
      workersWeight workers := by
  induction workers generalizing i with
  | nil => exact Nat.le_refl _
  | cons worker rest ih =>
    obtain ⟨start, r⟩ := worker
    have hrest := ih (i + 1)
    change 6 + actionsWeight start + resourceWeight r + runningWeight _ ≤
      8 + actionsWeight start + resourceWeight r + workersWeight rest
    omega

theorem Action.begin_weight_lt (w : World α) (value : Value α) (rest : List (Action α))
    (a : Action α) : (a.begin w value rest).1.weight + (a.begin w value rest).2.weight <
      w.weight + (a.weight + actionsWeight rest) + 1 := by
  cases a with
  | log text =>
    change w.weight + (1 + 0 + actionsWeight rest) < w.weight + (2 + actionsWeight rest) + 1
    omega
  | state =>
    change w.weight + (1 + 0 + actionsWeight rest) < w.weight + (2 + actionsWeight rest) + 1
    omega
  | registered =>
    change w.weight + (1 + 0 + actionsWeight rest) < w.weight + (2 + actionsWeight rest) + 1
    omega
  | sleep time =>
    change w.weight + (1 + 1 + actionsWeight rest) < w.weight + (2 + actionsWeight rest) + 1
    omega
  | fail message =>
    change w.weight + 0 < w.weight + (2 + actionsWeight rest) + 1
    omega
  | hang =>
    change w.weight + (1 + 0 + actionsWeight rest) < w.weight + (2 + actionsWeight rest) + 1
    omega
  | value v =>
    change w.weight + (1 + 0 + actionsWeight rest) < w.weight + (2 + actionsWeight rest) + 1
    omega
  | register r =>
    change _ < w.weight + (4 + resourceWeight r + actionsWeight rest) + 1
    rcases w.weight_register r with ⟨w', hr, hw⟩ | ⟨w', c, hr, hw, hc⟩
    · simp only [Action.begin, hr]
      change w'.weight + (1 + 0 + actionsWeight rest) < _
      omega
    · simp only [Action.begin, hr]
      change w'.weight + (1 + (1 + c.work.weight) + actionsWeight rest) < _
      omega
  | tryRegister r =>
    change _ < w.weight + (4 + resourceWeight r + actionsWeight rest) + 1
    rcases w.weight_register r with ⟨w', hr, hw⟩ | ⟨w', c, hr, hw, hc⟩
    · simp only [Action.begin, hr, World.weight_record]
      change w'.weight + (1 + 0 + actionsWeight rest) < _
      omega
    · simp only [Action.begin, hr]
      change w'.weight + (1 + (1 + c.work.weight) + actionsWeight rest) < _
      omega
  | trigger cause =>
    have htrigger := w.weight_trigger_le cause
    change (w.trigger cause).weight + (1 + 1 + actionsWeight rest) <
      w.weight + (4 + actionsWeight rest) + 1
    omega
  | spawnTrigger cause =>
    have hspawn := w.weight_spawn (.trigger cause false)
    change (w.spawn (.trigger cause false)).weight + (1 + 0 + actionsWeight rest) <
      w.weight + (6 + actionsWeight rest) + 1
    change _ = w.weight + 4 at hspawn
    omega
  | deploy deadline workers =>
    have hworkers := runningWeight_waiting workers 0
    change w.weight + (1 + (1 + runningWeight
        (workers.zipIdx.map fun ((start, r), i) => Worker.waiting i start r)) +
        actionsWeight rest) < w.weight + (3 + workersWeight workers + actionsWeight rest) + 1
    omega

theorem Work.afterRefusal_weight (w : World α) (tolerated : Bool) (c : Closing (Work α))
    (result : Option (Except String (Value α))) (value : Value α) (rest : List (Action α)) :
    (Work.afterRefusal w tolerated c result value rest).1.weight +
      (Work.afterRefusal w tolerated c result value rest).2.weight ≤
        w.weight + (1 + actionsWeight rest) := by
  have hend := w.weight_endRefusal c result
  cases tolerated with
  | true =>
    change (w.endRefusal c result).weight + (1 + 0 + actionsWeight rest) ≤ _
    omega
  | false =>
    change (w.endRefusal c result).weight + 0 ≤ _
    omega

theorem Work.afterDeployment_weight {w w' : World α} {deadline : Duration} {due : Nat}
    {workers : List (Worker α)} {rest : List (Action α)} {next : Stepped α}
    (h : Work.afterDeployment w deadline due workers rest = some (w', next)) :
    w'.weight + next.weight ≤ w.weight + (1 + actionsWeight rest) := by
  unfold Work.afterDeployment at h
  split at h
  · split at h
    · cases h
      exact Nat.add_le_add_left (Nat.zero_le _) _
    · cases h
      change w.weight + (1 + 0 + actionsWeight rest) ≤ _
      omega
  · split at h
    · cases h
      exact Nat.add_le_add_left (Nat.zero_le _) _
    · cases h

theorem Worker.enroll_weight (w : World α) (r : Resource (Action α)) :
    (Worker.enroll w r).1.weight + (Worker.enroll w r).2.weight ≤ w.weight + resourceWeight r := by
  rcases w.weight_register r with ⟨w', hr, hw⟩ | ⟨w', c, hr, hw, hc⟩
  · simp only [Worker.enroll, hr]
    change w'.weight + 0 ≤ _
    omega
  · simp only [Worker.enroll, hr]
    change w'.weight + (2 + c.work.weight) ≤ _
    omega

mutual

theorem Work.Steps.weight_lt {w w' : World α} {job : Work α} {next : Stepped α}
    (h : Work.Steps w job w' next) : w'.weight + next.weight < w.weight + job.weight := by
  cases h with
  | finish value => exact Nat.lt_add_of_pos_right (Nat.lt_add_one 0)
  | begin a value rest =>
    have hbegin := a.begin_weight_lt w value rest
    change _ < w.weight + (1 + 0 + (a.weight + actionsWeight rest))
    omega
  | wake h value rest =>
    change w.weight + (1 + 0 + actionsWeight rest) < w.weight + (1 + 1 + actionsWeight rest)
    omega
  | told hr value rest =>
    change w.weight + (1 + 0 + actionsWeight rest) < w.weight + (1 + 1 + actionsWeight rest)
    omega
  | @close w₁ job job' h tolerated ticket name stage due value rest =>
    have hlt := Work.Steps.weight_lt h
    change w'.weight + job'.weight < _ at hlt
    change w'.weight + (1 + (1 + job'.weight) + actionsWeight rest) <
      w.weight + (1 + (1 + job.weight) + actionsWeight rest)
    omega
  | @closed w₁ job result h tolerated ticket name stage due value rest =>
    have hlt := Work.Steps.weight_lt h
    change w₁.weight + 0 < _ at hlt
    have hafter := Work.afterRefusal_weight w₁ tolerated ⟨ticket, name, stage, due, job⟩
      (some result) value rest
    change _ < w.weight + (1 + (1 + job.weight) + actionsWeight rest)
    omega
  | @cutOff job due h hdue tolerated ticket name stage value rest =>
    have hafter := Work.afterRefusal_weight w tolerated ⟨ticket, name, stage, due, job⟩
      none value rest
    change _ < w.weight + (1 + (1 + job.weight) + actionsWeight rest)
    omega
  | @deploy w₁ workers workers' h deadline due value rest =>
    have hlt := WorkersSteps.weight_lt h
    change w'.weight + (1 + (1 + runningWeight workers') + actionsWeight rest) <
      w.weight + (1 + (1 + runningWeight workers) + actionsWeight rest)
    omega
  | @deployed w₁ workers deadline due rest next hworkers h value =>
    have hafter := Work.afterDeployment_weight h
    change _ < w.weight + (1 + (1 + runningWeight workers) + actionsWeight rest)
    omega

theorem Worker.Steps.weight_lt {w w' : World α} {worker next : Worker α}
    (h : Worker.Steps w worker w' next) : w'.weight + next.weight < w.weight + worker.weight := by
  cases h with
  | create number start r =>
    change w.weight + (3 + (1 + 0 + actionsWeight start) + resourceWeight r) <
      w.weight + (6 + actionsWeight start + resourceWeight r)
    omega
  | @start w₁ job job' h number r =>
    have hlt := Work.Steps.weight_lt h
    change w'.weight + job'.weight < _ at hlt
    change w'.weight + (3 + job'.weight + resourceWeight r) <
      w.weight + (3 + job.weight + resourceWeight r)
    omega
  | @up w₁ job value h number r =>
    have hlt := Work.Steps.weight_lt h
    change w₁.weight + 0 < _ at hlt
    have henroll := Worker.enroll_weight w₁ r
    change _ < w.weight + (3 + job.weight + resourceWeight r)
    omega
  | @fail w₁ job e h number r =>
    have hlt := Work.Steps.weight_lt h
    change w'.weight + 0 < _ at hlt
    change w'.weight + 0 < w.weight + (3 + job.weight + resourceWeight r)
    omega
  | @close w₁ job job' h ticket name stage due =>
    have hlt := Work.Steps.weight_lt h
    change w'.weight + job'.weight < _ at hlt
    change w'.weight + (2 + job'.weight) < w.weight + (2 + job.weight)
    omega
  | @closed w₁ job result h ticket name stage due =>
    have hlt := Work.Steps.weight_lt h
    change w₁.weight + 0 < _ at hlt
    rw [World.weight_endRefusal]
    change w₁.weight + 0 < w.weight + (2 + job.weight)
    omega
  | @cutOff job due h hdue ticket name stage =>
    rw [World.weight_endRefusal]
    change w.weight + 0 < w.weight + (2 + job.weight)
    omega

theorem WorkersSteps.weight_lt {w w' : World α} {workers next : List (Worker α)}
    (h : WorkersSteps w workers w' next) :
    w'.weight + runningWeight next < w.weight + runningWeight workers := by
  cases h with
  | @here w₁ worker worker' h rest =>
    have hlt := Worker.Steps.weight_lt h
    change w'.weight + (worker'.weight + runningWeight rest) <
      w.weight + (worker.weight + runningWeight rest)
    omega
  | @there w₁ worker rest rest' hworker h =>
    have hlt := WorkersSteps.weight_lt h
    change w'.weight + (worker.weight + runningWeight rest') <
      w.weight + (worker.weight + runningWeight rest)
    omega

end

theorem Work.step_weight_lt {w w' : World α} {job : Work α} {next : Stepped α}
    (h : job.step w = some (w', next)) : w'.weight + next.weight < w.weight + job.weight :=
  (Work.step_steps h).weight_lt

/-! ## Steps of threads -/

theorem Pass.afterClose_weight (w : World α) (p : Pass α) (c : Closing (Work α))
    (result : Option (Except String (Value α))) :
    (p.afterClose w c result).1.weight + (p.afterClose w c result).2.weight =
      w.weight + (1 + 0 + entriesWeight p.waiting) := by
  have hend := w.weight_endClose c result
  unfold Pass.afterClose
  cases h : w.endClose c result with
  | mk w' outcome =>
    simp only [h] at hend
    cases outcome with
    | ok u => exact congrArg (· + (1 + 0 + entriesWeight p.waiting)) hend
    | error e => exact congrArg (· + (1 + 0 + entriesWeight p.waiting)) hend

theorem Pass.Steps.weight_lt {w w' : World α} {p : Pass α} {t : Thread α}
    (h : Pass.Steps w p w' t) : w'.weight + t.weight < w.weight + (Thread.pass p).weight := by
  have hclosing : ∀ {c}, p.current = some c →
      (Thread.pass p).weight = 1 + (1 + c.work.weight) + entriesWeight p.waiting :=
    fun hcurrent => by simp only [Thread.weight, hcurrent]
  have hbetween : p.current = none → (Thread.pass p).weight = 1 + 0 + entriesWeight p.waiting :=
    fun hcurrent => by simp only [Thread.weight, hcurrent]
  cases h with
  | @work w' c job hcurrent hjob =>
    rw [hclosing hcurrent]
    have hlt := Work.step_weight_lt hjob
    change w'.weight + job.weight < _ at hlt
    change w'.weight + (1 + (1 + job.weight) + entriesWeight p.waiting) < _
    omega
  | @closed w₁ c result hcurrent hjob =>
    rw [hclosing hcurrent]
    have hlt := Work.step_weight_lt hjob
    change w₁.weight + 0 < _ at hlt
    have hafter := p.afterClose_weight w₁ c (some result)
    omega
  | @cutOff c hcurrent hjob hdue =>
    rw [hclosing hcurrent]
    have hafter := p.afterClose_weight w c none
    omega
  | @take e rest hcurrent hwaiting =>
    rw [hbetween hcurrent, hwaiting]
    have he := resourceWeight_eq e.resource
    change w.weight + (1 + (1 + (1 + 0 + actionsWeight e.resource.close)) + entriesWeight rest) <
      w.weight + (1 + 0 + (resourceWeight e.resource + entriesWeight rest))
    omega
  | stop hcurrent hwaiting =>
    rw [hbetween hcurrent]
    change w.weight + 0 < _
    omega

theorem Thread.step_weight_lt {w w' : World α} {t t' : Thread α} (h : t.step w = some (w', t')) :
    w'.weight + t'.weight < w.weight + t.weight := by
  cases Thread.step_steps h with
  | ask cause =>
    have htrigger := w.weight_trigger_le cause
    change (w.trigger cause).weight + 1 < w.weight + 4
    omega
  | told hr cause => exact Nat.lt_succ_self w.weight
  | pass h => exact h.weight_lt

theorem World.stepThread_weight_lt {w w' : World α} {i : Nat} (h : w.stepThread i = some w') :
    w'.weight < w.weight := by
  obtain ⟨t, w₁, t', ht, hstep, rfl⟩ := World.stepThread_steps h
  have hlt := Thread.step_weight_lt hstep
  obtain ⟨l, hl, -⟩ := (Thread.step_move hstep).threads
  have hi : w₁.threads[i]? = some t := by
    rw [hl, List.getElem?_append_left (List.getElem?_eq_some_iff.mp ht).1]
    exact ht
  have hset := threadsWeight_set hi t'
  simp only [World.weight_eq] at hlt ⊢
  omega

theorem World.step_weight_lt {w w' : World α} (h : w.step = some w') : w'.weight < w.weight := by
  obtain ⟨i, -, hi⟩ := List.exists_of_findSome?_eq_some h
  exact World.stepThread_weight_lt hi

/-! ## Steps of requests -/

theorem World.weight_foldl_error (w : World α) (errors : List CloseFailure)
    (fields : CloseFailure → List (String × String)) (message : String) :
    (errors.foldl (fun w failure => w.error message (fields failure)) w).weight = w.weight := by
  induction errors generalizing w with
  | nil => rfl
  | cons e rest ih => exact ih _

def phasesWeight (phases : List (Phase α)) : Nat :=
  phases.foldr (fun p n => 12 + actionsWeight p.body + n) 0

def Bootstrap.weightAfter : Bootstrap α ⊕ Bootstrap.Result α → Nat
  | .inl b => b.weight
  | .inr _ => 0

theorem Bootstrap.abort_weight (w : World α) (b : Bootstrap α) (e : BootFailure) :
    (b.abort w e).1.weight + (b.abort w e).2.weight ≤
      w.weight + (2 + phasesWeight b.waiting) := by
  have hleave := (w.error "Startup failed, tearing down"
    [("phase", e.phase), ("error", e.message)]).weight_leaveBootstrap .failedStartup
  have htrigger := ((w.error "Startup failed, tearing down"
    [("phase", e.phase), ("error", e.message)]).becomeFailed.1).weight_trigger_le .fatalBootstrap
  change (World.trigger _ .fatalBootstrap).weight + (1 + phasesWeight b.waiting) ≤ _
  change (World.becomeFailed _).1.weight = w.weight at hleave
  omega

theorem Bootstrap.step_weight_lt {w w' : World α} {b : Bootstrap α}
    {next : Bootstrap α ⊕ Bootstrap.Result α} (h : b.step w = some (w', next)) :
    w'.weight + Bootstrap.weightAfter next < w.weight + b.weight := by
  have hbody : ∀ {name limit due job}, b.stand = .body name limit due job →
      b.weight = 8 + job.weight + phasesWeight b.waiting :=
    fun hstand => by simp only [Bootstrap.weight, hstand, phasesWeight]
  have hbetween : b.stand = .between → b.weight = 1 + phasesWeight b.waiting :=
    fun hstand => by simp only [Bootstrap.weight, hstand, phasesWeight]
  cases Bootstrap.step_steps h with
  | finish hstand hwaiting =>
    rw [hbetween hstand]
    change w.weight + 0 < _
    omega
  | refuse hstand hwaiting haborted =>
    rw [hbetween hstand]
    change w.weight + 0 < _
    omega
  | @begin p rest hstand hwaiting haborted =>
    rw [hbetween hstand, hwaiting]
    change w.weight + (8 + (1 + 0 + actionsWeight p.body) + phasesWeight rest) <
      w.weight + (1 + (12 + actionsWeight p.body + phasesWeight rest))
    omega
  | @work _ _ _ _ job' w' hstand hjob =>
    rw [hbody hstand]
    have hlt := Work.step_weight_lt hjob
    change w'.weight + job'.weight < _ at hlt
    change w'.weight + (8 + job'.weight + phasesWeight b.waiting) < _
    omega
  | @done _ _ _ _ w₁ _ hstand hjob =>
    rw [hbody hstand]
    have hlt := Work.step_weight_lt hjob
    change w₁.weight + 0 < _ at hlt
    change w₁.weight + (1 + phasesWeight b.waiting) < _
    omega
  | @fail name reason _ _ _ w₁ hstand hjob =>
    rw [hbody hstand]
    have hlt := Work.step_weight_lt hjob
    change w₁.weight + 0 < _ at hlt
    have habort := Bootstrap.abort_weight w₁ b (.phaseFailed name reason)
    exact Nat.lt_of_le_of_lt habort (by omega)
  | @timeOut name limit _ job hstand hjob hdue =>
    rw [hbody hstand]
    have habort := Bootstrap.abort_weight (w.giveUp job.refusals) b (.phaseTimedOut name limit)
    rw [World.weight_giveUp] at habort
    exact Nat.lt_of_le_of_lt habort (by omega)
  | tornDown hstand hr =>
    have hb : b.weight = 1 + phasesWeight b.waiting := by
      simp only [Bootstrap.weight, hstand, phasesWeight]
    rw [hb, World.weight_foldl_error]
    change w.weight + 0 < _
    omega

theorem Waiting.step_weight_lt {s s' : Session α} {r r' : Waiting α}
    (h : r.step s = some (s', r')) : s'.world.weight + r'.weight < s.world.weight + r.weight := by
  cases Waiting.step_steps h with
  | @work job job' w hjob =>
    have hlt := Work.step_weight_lt hjob
    change w.weight + job'.weight < _ at hlt
    change w.weight + (1 + job'.weight) < s.world.weight + (1 + job.weight)
    omega
  | @done job w value hjob =>
    have hlt := Work.step_weight_lt hjob
    change w.weight + 0 < _ at hlt
    change w.weight + 0 < s.world.weight + (1 + job.weight)
    omega
  | @refused job w e hjob =>
    have hlt := Work.step_weight_lt hjob
    change w.weight + 0 < _ at hlt
    change w.weight + 0 < s.world.weight + (1 + job.weight)
    omega
  | told hr due late => exact Nat.lt_succ_self _
  | late hr hdue late => exact Nat.lt_succ_self _
  | joined ht hr => exact Nat.lt_succ_self _
  | woken hdue => exact Nat.lt_succ_self _
  | @boot b b' w hb single =>
    have hlt := Bootstrap.step_weight_lt hb
    change w.weight + b'.weight < _ at hlt
    change w.weight + (1 + b'.weight) < s.world.weight + (1 + b.weight)
    omega
  | @booted b w result hb single =>
    have hlt := Bootstrap.step_weight_lt hb
    change w.weight + 0 < _ at hlt
    change w.weight + 0 < s.world.weight + (1 + b.weight)
    omega

/-- **Every step of a session takes weight away.** -/
theorem Session.step_weight_lt {s s' : Session α} {r r' : Waiting α}
    (h : s.step r = some (s', r')) : s'.world.weight + r'.weight < s.world.weight + r.weight := by
  unfold Session.step at h
  split at h
  · case h_1 next hnext =>
    cases h
    exact Waiting.step_weight_lt hnext
  · obtain ⟨w, hw, hsame⟩ := Option.map_eq_some_iff.mp h
    cases hsame
    exact Nat.add_lt_add_right (World.step_weight_lt hw) _

end EventIntake.Lifecycle
