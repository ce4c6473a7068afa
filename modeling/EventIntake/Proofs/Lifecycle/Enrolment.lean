import EventIntake.Proofs.Lifecycle.Succession

/-!
# What phases hand over, in their order

A process begins with a task that runs phases, and whatever else goes on, the task is followed: the
resources that its phases hand over one by one are kept with their tickets.  Phases come to nothing
more after a refusal, so the last hand-over is the only one that may not have been accepted
(`Enrolment.Keeps`), and what was accepted is closed in the order of its stages, one after the other
(`Enrolment.Keeps.isOver`).
-/

namespace EventIntake.Lifecycle

variable {α : Type}

/-- The resource that an action hands over, and without which the action fails. -/
def Action.offer? : Action α → Option (Resource (Action α))
  | .register r => some r
  | _ => none

def offers (actions : List (Action α)) : List (Resource (Action α)) :=
  actions.filterMap Action.offer?

/-- What phases hand over one by one if none of them fails. -/
def phaseOffers (phases : List (Phase α)) : List (Resource (Action α)) :=
  phases.flatMap fun p => offers p.body

def Work.offering? : Work α → Option (Resource (Action α))
  | .mk .none _ (.register r :: _) => some r
  | _ => none

/-- What work has still to hand over, unless it can only fail. -/
def Work.offers? : Work α → Option (List (Resource (Action α)))
  | .mk (.refusal false _) _ _ => none
  | .mk _ _ rest => some (offers rest)

namespace Bootstrap

def offering? (b : Bootstrap α) : Option (Resource (Action α)) :=
  match b.stand with
  | .body _ _ _ work => work.offering?
  | .between | .tearingDown _ => none

/-- What a run of phases has still to hand over. -/
def ahead (b : Bootstrap α) : List (Resource (Action α)) :=
  match b.stand with
  | .between => if b.aborted then [] else phaseOffers b.waiting
  | .body _ _ _ work =>
    match work.offers? with
    | some l => l ++ phaseOffers b.waiting
    | none => []
  | .tearingDown _ => []

def aheadAfter : Bootstrap α ⊕ Result α → List (Resource (Action α))
  | .inl b => b.ahead
  | .inr _ => []

end Bootstrap

namespace Task

def offering? : Task α → Option (Resource (Action α))
  | .bootstrap b => b.offering?
  | .work _ | .ended => none

def ahead : Task α → List (Resource (Action α))
  | .bootstrap b => b.ahead
  | .work _ | .ended => []

end Task

/-! ## Steps -/

/-- What becomes in one step of what is still to be handed over. -/
inductive Offers (w w' : World α) : Option (Resource (Action α)) → List (Resource (Action α)) →
    List (Resource (Action α)) → Prop
  | none {ahead ahead' : List (Resource (Action α))} (h : ahead' <+: ahead) :
      Offers w w' none ahead ahead'
  | accepted {r : Resource (Action α)} (hacc : w.coordinator.accepting = true)
      (h : w' = (w.register r).1) (ahead : List (Resource (Action α))) :
      Offers w w' (some r) (r :: ahead) ahead
  | refused {r : Resource (Action α)} (hacc : w.coordinator.accepting = false)
      (h : w' = (w.register r).1) (ahead : List (Resource (Action α))) :
      Offers w w' (some r) (r :: ahead) []

theorem Offers.of_some {w w' : World α} {offering : Option (Resource (Action α))}
    {r : Resource (Action α)} {ahead ahead' : List (Resource (Action α))}
    (h : Offers w w' offering ahead ahead') (hr : offering = some r) :
    w' = (w.register r).1 ∧ ∃ rest, ahead = r :: rest ∧
      (ahead' = [] ∨ ahead' = rest ∧ w.coordinator.accepting = true) := by
  cases h with
  | none h => cases hr
  | accepted hacc h ahead =>
    cases hr
    exact ⟨h, ahead', rfl, .inr ⟨rfl, hacc⟩⟩
  | refused hacc h ahead =>
    cases hr
    exact ⟨h, ahead, rfl, .inl rfl⟩

theorem Work.step_offering {w : World α} {job : Work α} {r : Resource (Action α)}
    (hr : job.offering? = some r) : ∃ (job' : Work α) (rest : List (Resource (Action α))),
      job.step w = some ((w.register r).1, .inl job') ∧ job.offers? = some (r :: rest) ∧
      job'.offers? = if w.coordinator.accepting then some rest else none := by
  unfold Work.offering? at hr
  split at hr
  · case h_1 value r' rest =>
    cases hr
    cases hacc : w.coordinator.accepting with
    | true =>
      refine ⟨.mk .none value rest, offers rest, ?_, rfl, rfl⟩
      simp only [Work.step, Action.begin, World.register_of_accepting hacc]
    | false =>
      obtain ⟨c, hc⟩ : ∃ c, w.register r = ((w.register r).1, some c) :=
        ⟨_, by rw [World.register_of_refusing hacc]⟩
      refine ⟨.mk (.refusal false c) value rest, offers rest, ?_, rfl, rfl⟩
      rw [Work.step, Action.begin, hc]
  · cases hr

/-- Work with so much still to hand over goes on with the same, is done with all of it, or fails. -/
inductive Stepped.Leaves (offers : Option (List (Resource (Action α)))) : Stepped α → Prop
  | on {job : Work α} (h : job.offers? = offers) : Leaves offers (.inl job)
  | done (h : offers = some []) (value : Value α) : Leaves offers (.inr (.ok value))
  | failed (e : String) : Leaves offers (.inr (.error e))

theorem Work.step_offers {w w' : World α} {job : Work α} {next : Stepped α}
    (h : job.step w = some (w', next)) (hnone : job.offering? = none) :
    Stepped.Leaves job.offers? next := by
  have hsteps := Work.step_steps h
  cases hsteps with
  | finish value => exact .done rfl value
  | begin a value rest =>
    cases a with
    | register r => cases hnone
    | tryRegister r =>
      simp only [Action.begin]
      split <;> exact .on rfl
    | fail message => exact .failed message
    | _ => exact .on rfl
  | wake h value rest => exact .on rfl
  | told hr value rest => exact .on rfl
  | close h tolerated ticket name stage due value rest =>
    cases tolerated <;> exact .on rfl
  | closed h tolerated ticket name stage due value rest =>
    cases tolerated with
    | true => exact .on rfl
    | false => exact .failed _
  | cutOff h hdue tolerated ticket name stage value rest =>
    cases tolerated with
    | true => exact .on rfl
    | false => exact .failed _
  | deploy h deadline due value rest => exact .on rfl
  | deployed hworkers h value =>
    unfold Work.afterDeployment at h
    split at h
    · split at h
      · cases h
        exact .failed _
      · cases h
        exact .on rfl
    · split at h
      · cases h
        exact .failed _
      · cases h

theorem Bootstrap.step_offers {w w' : World α} {b : Bootstrap α}
    {next : Bootstrap α ⊕ Bootstrap.Result α} (h : b.step w = some (w', next)) :
    Offers w w' b.offering? b.ahead (Bootstrap.aheadAfter next) := by
  cases hoffering : b.offering? with
  | some r =>
    unfold Bootstrap.offering? at hoffering
    split at hoffering
    · case h_1 name limit due work hstand =>
      obtain ⟨job', rest, hstep, hoffers, hoffers'⟩ := Work.step_offering (w := w) hoffering
      rw [Bootstrap.step, hstand] at h
      simp only [hstep] at h
      cases h
      have hbefore : b.ahead = r :: (rest ++ phaseOffers b.waiting) := by
        simp only [Bootstrap.ahead, hstand, hoffers, List.cons_append]
      rw [hbefore]
      simp only [Bootstrap.aheadAfter, Bootstrap.ahead, hoffers']
      cases hacc : w.coordinator.accepting with
      | true => exact .accepted hacc rfl _
      | false => exact .refused hacc rfl _
    · cases hoffering
    · cases hoffering
  | none =>
    refine .none ?_
    have hwork : ∀ {name limit due job}, b.stand = .body name limit due job →
        job.offering? = none := fun hstand => by rwa [Bootstrap.offering?, hstand] at hoffering
    cases Bootstrap.step_steps h with
    | begin hstand hwaiting haborted =>
      rw [Bootstrap.ahead, hstand, hwaiting]
      simp only [haborted, Bool.false_eq_true, if_false]
      exact List.prefix_rfl
    | work hstand hjob =>
      cases Work.step_offers hjob (hwork hstand) with
      | on hsame =>
        simp only [Bootstrap.aheadAfter, Bootstrap.ahead, hstand, hsame]
        exact List.prefix_rfl
    | done hstand hjob =>
      cases Work.step_offers hjob (hwork hstand) with
      | done hnothing =>
        simp only [Bootstrap.aheadAfter, Bootstrap.ahead, hstand, hnothing, List.nil_append]
        split
        · exact List.nil_prefix
        · exact List.prefix_rfl
    | _ => exact List.nil_prefix

theorem Task.step_offers {w w' : World α} {t t' : Task α} (h : t.step w = some (w', t')) :
    Offers w w' t.offering? t.ahead t'.ahead := by
  cases Task.step_steps h with
  | work hjob => exact .none List.nil_prefix
  | worked hjob => exact .none List.nil_prefix
  | boot hb => exact Bootstrap.step_offers hb
  | booted hb => exact Bootstrap.step_offers hb

theorem Task.offering?_eq_none {w : World α} {t : Task α} (h : t.step w = none) :
    t.offering? = none := by
  cases t with
  | work job => rfl
  | ended => rfl
  | bootstrap b =>
    cases hoffering : b.offering? with
    | none => exact hoffering
    | some r =>
      unfold Bootstrap.offering? at hoffering
      split at hoffering
      · case h_1 name limit due work hstand =>
        obtain ⟨job', rest, hstep, -⟩ := Work.step_offering (w := w) hoffering
        simp [Task.step, Bootstrap.step, hstand, hstep] at h
      · cases hoffering
      · cases hoffering

/-! ## What the world keeps of it -/

theorem Scene.Balanced.entries_order {s : Scene α} (hb : s.Balanced)
    (hacc : s.1.coordinator.accepting = true) :
    s.1.coordinator.entries.Pairwise (fun e f => e.ticket < f.ticket) ∧
      ∀ e ∈ s.1.coordinator.entries, e.ticket < s.1.coordinator.issued := by
  have hsublist : (s.1.coordinator.entries.map Entry.ticket).Sublist
      (List.range s.1.coordinator.issued) := by
    rw [hb.entries hacc, hb.early, ← hb.offered]
    exact (List.takeWhile_sublist _).filterMap _
  refine ⟨List.pairwise_map.mp (List.pairwise_lt_range.sublist hsublist), fun e he => ?_⟩
  exact List.mem_range.mp (hsublist.subset (List.mem_map_of_mem he))

theorem Scene.Balanced.issued_notMem_accepted {s : Scene α} (hb : s.Balanced) :
    s.1.coordinator.issued ∉ s.1.accepted := by
  intro hmem
  have hoffered := hb.mem_offered_iff.mpr (.inl hmem)
  rw [hb.offered] at hoffered
  exact Nat.lt_irrefl _ (List.mem_range.mp hoffered)

theorem World.register_issued (w : World α) (r : Resource (Action α)) :
    (w.register r).1.coordinator.issued = w.coordinator.issued + 1 := by
  cases hacc : w.coordinator.accepting with
  | true => rw [register_of_accepting hacc]
  | false => rw [register_of_refusing hacc]

/-- What was handed over has tickets in its order; it is held until the shutdown and closed in the
order of the stages. -/
structure World.Enrols (w : World α) (handed : List (Entry α)) : Prop where
  order : handed.Pairwise fun e f => e.ticket < f.ticket
  issued : ∀ e ∈ handed, e.ticket < w.coordinator.issued
  held : w.coordinator.accepting = true → ∀ e ∈ handed, e ∈ w.coordinator.entries
  behind : ∀ e ∈ handed, ∀ f ∈ handed, e.ticket ∈ w.accepted → f.ticket ∈ w.accepted →
    e.ClosesBefore f → w.Behind e f

namespace World.Enrols

variable {w w' : World α} {handed : List (Entry α)}

theorem moves (h : w.Enrols handed) (hmoves : w.Moves w') : w'.Enrols handed := by
  have hw := World.Onward.of_moves hmoves
  have hold : ∀ e ∈ handed, e.ticket ∈ w'.accepted → e.ticket ∈ w.accepted := fun e he haccepted =>
    (hw.fresh _ haccepted).resolve_right fun ⟨hle, _⟩ => Nat.not_le.mpr (h.issued e he) hle
  refine ⟨h.order, fun e he => Nat.lt_of_lt_of_le (h.issued e he) hw.issued, fun hacc e he => ?_,
    fun e he f hf hea hfa hbefore => ?_⟩
  · obtain ⟨hacc', hentries⟩ := hw.accepting hacc
    exact hentries e (h.held hacc' e he)
  · exact (h.behind e he f hf (hold e he hea) (hold f hf hfa) hbefore).moves hmoves

theorem concat (h : w.Enrols handed) {e : Entry α} (hfresh : ∀ f ∈ handed, f.ticket < e.ticket)
    (hissued : e.ticket < w.coordinator.issued)
    (hheld : w.coordinator.accepting = true → e ∈ w.coordinator.entries)
    (hrefused : w.coordinator.accepting = false → e.ticket ∉ w.accepted)
    (hentries : w.coordinator.accepting = true →
      w.coordinator.entries.Pairwise (fun e f => e.ticket < f.ticket) ∧
        ∀ e ∈ w.coordinator.entries, e.ticket < w.coordinator.issued) :
    w.Enrols (handed ++ [e]) := by
  have hall : ∀ {P : Entry α → Prop}, (∀ f ∈ handed, P f) → P e → ∀ f ∈ handed ++ [e], P f := by
    intro P hhanded he f hf
    rcases List.mem_append.mp hf with hf | hf
    · exact hhanded f hf
    · rw [List.mem_singleton.mp hf]
      exact he
  have hheld' : w.coordinator.accepting = true → ∀ f ∈ handed ++ [e], f ∈ w.coordinator.entries :=
    fun hacc => hall (h.held hacc) (hheld hacc)
  refine ⟨?_, hall h.issued hissued, hheld', fun f hf g hg hfa hga hbefore => ?_⟩
  · refine List.pairwise_append.mpr ⟨h.order, List.pairwise_singleton _ _, fun f hf g hg => ?_⟩
    rw [List.mem_singleton.mp hg]
    exact hfresh f hf
  · cases hacc : w.coordinator.accepting with
    | true =>
      obtain ⟨horder, hlt⟩ := hentries hacc
      exact .held ⟨hacc, hheld' hacc f hf, hheld' hacc g hg, hbefore, horder, hlt⟩
    | false =>
      have hold : ∀ x ∈ handed ++ [e], x.ticket ∈ w.accepted → x ∈ handed := fun x hx hxa => by
        rcases List.mem_append.mp hx with hx | hx
        · exact hx
        · rw [List.mem_singleton.mp hx] at hxa
          exact absurd hxa (hrefused hacc)
      exact h.behind f (hold f hf hfa) g (hold g hg hga) hfa hga hbefore

theorem register (h : w.Enrols handed) {r : Resource (Action α)} {P P' : Multiset (Closing Unit)}
    (hb : Scene.Balanced (w, P)) (hb' : Scene.Balanced ((w.register r).1, P')) :
    (w.register r).1.Enrols (handed ++ [⟨w.coordinator.issued, r⟩]) := by
  have heffects : Effects false _ _ := w.register_effects r
  have hw := World.Onward.of_moves heffects.moves
  refine (h.moves heffects.moves).concat h.issued ?_ (fun hyes => ?_) (fun hno hmem => ?_)
    hb'.entries_order
  · rw [w.register_issued]
    exact Nat.lt_succ_self _
  · rw [World.register_of_accepting (hw.accepting hyes).1]
    exact List.mem_append_right _ (List.mem_singleton_self _)
  · rcases hw.fresh _ hmem with hold | ⟨-, hacc⟩
    · exact hb.issued_notMem_accepted hold
    · rw [World.register_of_accepting hacc] at hno
      exact absurd hacc (Bool.eq_false_iff.mp hno)

end World.Enrols

/-! ## A process that is followed -/

/-- A process, with what the phases of its first task have handed over one by one. -/
structure Enrolment (α : Type) where
  process : Process α
  handed : List (Entry α) := []

namespace Enrolment

def start (closeTimeout : Duration) (phases : List (Phase α)) : Enrolment α :=
  { process := (Process.start closeTimeout).take (.boot phases false) }

/-- What a choice has the first task hand over. -/
def offered (x : Enrolment α) : Choice α → List (Entry α)
  | .task 0 =>
    ((x.process.tasks[0]?.bind Task.offering?).map fun r =>
      ⟨x.process.world.coordinator.issued, r⟩).toList
  | _ => []

def take (x : Enrolment α) (c : Choice α) : Enrolment α :=
  ⟨x.process.take c, x.handed ++ x.offered c⟩

/-- Whether something was handed over under this name with one of these tickets. -/
def has (x : Enrolment α) (name : String) (tickets : List Nat) : Bool :=
  x.handed.any fun e => e.resource.name = name ∧ e.ticket ∈ tickets

def isAccepted (x : Enrolment α) (name : String) : Bool := x.has name x.process.world.accepted

def isClosing (x : Enrolment α) (name : String) : Bool := x.has name x.process.world.closings

def isClosed (x : Enrolment α) (name : String) : Bool := x.has name x.process.world.ended

theorem has_iff {x : Enrolment α} {name : String} {tickets : List Nat} : x.has name tickets ↔
    ∃ e ∈ x.handed, e.resource.name = name ∧ e.ticket ∈ tickets := by
  simp [has]

theorem has_take {x : Enrolment α} {c : Choice α} {name : String} {tickets tickets' : List Nat}
    (h : x.has name tickets) (hsub : ∀ t ∈ tickets, t ∈ tickets') :
    (x.take c).has name tickets' := by
  obtain ⟨e, he, hname, hticket⟩ := has_iff.mp h
  exact has_iff.mpr ⟨e, List.mem_append_left _ he, hname, hsub _ hticket⟩

structure Keeps (closeTimeout : Duration) (phases : List (Phase α)) (x : Enrolment α) : Prop where
  turns : Turns (Scene.start closeTimeout) x.process.scene
  world : x.process.world.Enrols x.handed
  task : ∃ t, x.process.tasks[0]? = some t ∧
    x.handed.map Entry.resource ++ t.ahead <+: phaseOffers phases ∧
    (t.ahead ≠ [] → ∀ e ∈ x.handed, e.ticket ∈ x.process.world.accepted)
  accepted : ∀ e ∈ x.handed.dropLast, e.ticket ∈ x.process.world.accepted

variable {closeTimeout : Duration} {phases : List (Phase α)} {x : Enrolment α}

theorem keeps_start (closeTimeout : Duration) (phases : List (Phase α)) :
    (start closeTimeout phases).Keeps closeTimeout phases where
  turns := (Process.start closeTimeout).take_turns (.boot phases false)
  world := {
    order := .nil
    issued := fun _ he => nomatch he
    held := fun _ _ he => nomatch he
    behind := fun _ he => nomatch he }
  task := ⟨_, rfl, List.prefix_rfl, fun _ _ he => nomatch he⟩
  accepted := fun _ he => nomatch he

namespace Keeps

theorem balanced (h : x.Keeps closeTimeout phases) : x.process.scene.Balanced :=
  Turns.balanced h.turns

theorem standing (h : x.Keeps closeTimeout phases) : x.process.world.Standing :=
  Turns.standing h.turns

theorem of_offered_nil (h : x.Keeps closeTimeout phases) {c : Choice α} (hnone : x.offered c = [])
    (htask : ∀ t, x.process.tasks[0]? = some t →
      ∃ t', (x.process.take c).tasks[0]? = some t' ∧ t'.ahead <+: t.ahead) :
    (x.take c).Keeps closeTimeout phases := by
  have hmoves := x.process.take_moves h.standing c
  have hw := World.Onward.of_moves hmoves
  have hsame : (x.take c).handed = x.handed := by rw [take, hnone, List.append_nil]
  obtain ⟨t, ht, hprefix, haccepted⟩ := h.task
  obtain ⟨t', ht', hahead⟩ := htask t ht
  refine ⟨h.turns.trans (x.process.take_turns c), ?_, ⟨t', ht', ?_, fun hne e he => ?_⟩,
    fun e he => ?_⟩
  · rw [hsame]
    exact h.world.moves hmoves
  · rw [hsame]
    exact ((List.prefix_append_right_inj _).mpr hahead).trans hprefix
  · rw [hsame] at he
    refine hw.accepted _ (haccepted (fun hnil => hne ?_) e he)
    rw [hnil] at hahead
    exact List.prefix_nil.mp hahead
  · rw [hsame] at he
    exact hw.accepted _ (h.accepted e he)

theorem offer (h : x.Keeps closeTimeout phases) {t t' : Task α} {w' : World α}
    {r : Resource (Action α)} (ht : x.process.tasks[0]? = some t)
    (hstep : t.step x.process.world = some (w', t')) (hr : t.offering? = some r) :
    (x.take (.task 0)).Keeps closeTimeout phases := by
  have hturns := h.turns.trans (x.process.take_turns (.task 0))
  have hhanded : (x.take (.task 0)).handed =
      x.handed ++ [⟨x.process.world.coordinator.issued, r⟩] := by
    simp [take, offered, ht, hr]
  have hprocess : x.process.take (.task 0) = ⟨w', x.process.tasks.set 0 t'⟩ := by
    simp [Process.take, ht, hstep]
  have hb := Turns.balanced hturns
  have hw := World.Onward.of_moves (x.process.take_moves h.standing (.task 0))
  rw [hprocess] at hb hw
  obtain ⟨u, hu, hprefix, haccepted⟩ := h.task
  cases hu.symm.trans ht
  obtain ⟨rfl, rest, hahead, hrest⟩ := Task.step_offers hstep |>.of_some hr
  rw [hahead] at hprefix haccepted
  have hold : ∀ e ∈ x.handed, e.ticket ∈ (x.process.world.register r).1.accepted := fun e he =>
    hw.accepted _ (haccepted (List.cons_ne_nil _ _) e he)
  have htask : (x.process.tasks.set 0 t')[0]? = some t' := by
    rw [List.getElem?_set_self (List.getElem?_eq_some_iff.mp ht).1]
  refine ⟨hturns, ?_, ?_, ?_⟩ <;> rw [hhanded, take, hprocess]
  · exact h.world.register h.balanced hb
  · refine ⟨t', htask, ?_, fun hne e he => ?_⟩
    · rw [List.map_append, List.append_assoc]
      refine .trans ((List.prefix_append_right_inj _).mpr ?_) hprefix
      rcases hrest with hnil | ⟨hsame, -⟩
      · rw [hnil]
        exact List.prefix_append [r] rest
      · rw [hsame]
        exact List.prefix_rfl
    · obtain ⟨-, hacc⟩ := hrest.resolve_left hne
      rcases List.mem_append.mp he with he | he
      · exact hold e he
      · rw [List.mem_singleton.mp he, World.register_of_accepting hacc, World.accepted,
          Note.pick_append]
        exact List.mem_append_right _ (List.mem_singleton_self _)
  · rw [List.dropLast_concat]
    exact hold

theorem take (h : x.Keeps closeTimeout phases) (c : Choice α) :
    (x.take c).Keeps closeTimeout phases := by
  obtain ⟨t, ht, -⟩ := h.task
  -- only a step of the first task hands over what the phases launch
  have hsame : (x.process.take c).tasks[0]? = some t → x.offered c = [] →
      (x.take c).Keeps closeTimeout phases := fun ht' hnone =>
    h.of_offered_nil hnone fun u hu => by
      cases ht.symm.trans hu
      exact ⟨t, ht', List.prefix_rfl⟩
  have hbegin : ∀ u, (x.process.begin u).tasks[0]? = some t := fun u => by
    rw [Process.begin, List.getElem?_append_left (List.getElem?_eq_some_iff.mp ht).1]
    exact ht
  cases c with
  | call actions => exact hsame (hbegin _) rfl
  | wait => exact hsame (hbegin _) rfl
  | boot phases aborted => exact hsame (hbegin _) rfl
  | task i =>
    cases i with
    | zero =>
      cases hstep : t.step x.process.world with
      | none =>
        refine hsame ?_ ?_
        · simp only [Process.take, ht, hstep]
        · simp [offered, ht, Task.offering?_eq_none hstep]
      | some next =>
        obtain ⟨w', t'⟩ := next
        cases hr : t.offering? with
        | some r => exact h.offer ht hstep hr
        | none =>
          refine h.of_offered_nil (by simp [offered, ht, hr]) fun u hu => ?_
          cases ht.symm.trans hu
          refine ⟨t', ?_, ?_⟩
          · simp only [Process.take, ht, hstep]
            rw [List.getElem?_set_self (List.getElem?_eq_some_iff.mp ht).1]
          · have hoffers := Task.step_offers hstep
            rw [hr] at hoffers
            cases hoffers with
            | none hprefix => exact hprefix
    | succ i =>
      refine hsame ?_ rfl
      simp only [Process.take]
      split
      · split
        · rw [List.getElem?_set_ne (Nat.succ_ne_zero i)]
          exact ht
        · exact ht
      · exact ht
  | drop i =>
    by_cases hi : i = 0
    · subst hi
      refine h.of_offered_nil rfl fun u hu => ⟨.ended, ?_, List.nil_prefix⟩
      simp only [Process.take, hu]
      rw [List.getElem?_set_self (List.getElem?_eq_some_iff.mp hu).1]
    · refine hsame ?_ rfl
      simp only [Process.take]
      split
      · rw [List.getElem?_set_ne hi]
        exact ht
      · exact ht
  | thread i =>
    refine hsame ?_ rfl
    simp only [Process.take]
    split <;> exact ht
  | becomeRunning => exact hsame ht rfl
  | becomeFailed => exact hsame ht rfl
  | subscribe => exact hsame ht rfl
  | receive i => exact hsame ht rfl
  | clock time =>
    refine hsame ?_ rfl
    simp only [Process.take]
    split <;> exact ht

/-- **Of two resources that were accepted the close of the first one is over before that of the
second one begins.** -/
theorem isOver (h : x.Keeps closeTimeout phases) {e f : Entry α} (he : e ∈ x.handed)
    (hf : f ∈ x.handed) (hea : e.ticket ∈ x.process.world.accepted)
    (hfa : f.ticket ∈ x.process.world.accepted) (hbefore : e.ClosesBefore f)
    (hbegun : f.ticket ∈ x.process.world.closings) : x.process.world.IsOver e :=
  (h.world.behind e he f hf hea hfa hbefore).isOver h.balanced hbegun

theorem isAccepted_of_take (h : x.Keeps closeTimeout phases) {c : Choice α} {name : String}
    (hacc : x.process.world.coordinator.accepting = false)
    (haccepted : (x.take c).isAccepted name) : x.isAccepted name := by
  have hw := World.Onward.of_moves (x.process.take_moves h.standing c)
  obtain ⟨e, he, hname, hticket⟩ := has_iff.mp haccepted
  have hold : e.ticket ∈ x.process.world.accepted := by
    refine (hw.fresh _ hticket).resolve_right fun ⟨_, hyes⟩ => ?_
    rw [hacc] at hyes
    cases hyes
  refine has_iff.mpr ⟨e, ?_, hname, hold⟩
  rcases List.mem_append.mp he with he | he
  · exact he
  · -- the ticket of what is handed over now is a new one
    have hissued : e.ticket = x.process.world.coordinator.issued := by
      unfold offered at he
      split at he
      · simp only [Option.mem_toList, Option.map_eq_some_iff] at he
        obtain ⟨r, -, rfl⟩ := he
        rfl
      · cases he
    rw [hissued] at hold
    exact absurd hold h.balanced.issued_notMem_accepted

theorem resources (h : x.Keeps closeTimeout phases) :
    x.handed.map Entry.resource <+: phaseOffers phases := by
  obtain ⟨t, -, hprefix, -⟩ := h.task
  exact (List.prefix_append _ _).trans hprefix

end Keeps

end Enrolment

end EventIntake.Lifecycle
