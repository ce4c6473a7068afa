import EventIntake.Proofs.Lifecycle.Turn
import Mathlib.Data.List.TakeWhile
import Mathlib.Tactic.Abel

/-!
# The ledger

Every hand-over has a ticket, and the tickets are accounted for twice.  The resource behind a ticket
is held by the coordinator, waits for the pass, or has had its close begun (`custody`); the call
that handed it over was accepted, is under way, was refused or was given up (`calls`).  The two
balances and the `Standing` of the shutdown are kept by every turn, so no ticket is ever lost or
counted twice, whatever the interleaving.
-/

namespace EventIntake.Lifecycle

variable {α : Type} {phases : Bool}

namespace Note

def offered? : Note → Option Nat
  | register ticket _ => some ticket
  | _ => none

def accepted? : Note → Option Nat
  | accepted ticket => some ticket
  | _ => none

def refused? : Note → Option Nat
  | refused ticket _ => some ticket
  | _ => none

def dropped? : Note → Option Nat
  | dropped ticket => some ticket
  | _ => none

def cause? : Note → Option Cause
  | trigger cause => some cause
  | _ => none

def pick {β : Type} (f : Note → Option β) (notes : List (Nat × Note)) : List β :=
  notes.filterMap fun n => f n.2

theorem pick_append {β : Type} (f : Note → Option β) (l l' : List (Nat × Note)) :
    pick f (l ++ l') = pick f l ++ pick f l' := List.filterMap_append

end Note

namespace World

def offered (w : World α) : List Nat := Note.pick Note.offered? w.notes

def accepted (w : World α) : List Nat := Note.pick Note.accepted? w.notes

def refused (w : World α) : List Nat := Note.pick Note.refused? w.notes

def dropped (w : World α) : List Nat := Note.pick Note.dropped? w.notes

def triggers (w : World α) : List Cause := Note.pick Note.cause? w.notes

/-- What was noted before the first trigger. -/
def early (w : World α) : List (Nat × Note) := w.notes.takeWhile fun n => n.2.cause?.isNone

/-- The tickets of the resources whose close was begun, as often as it was. -/
def closings (w : World α) : List Nat := w.history.filterMap fun e => e.2.closing?.map Prod.fst

def waiting (w : World α) : List (Entry α) := w.threads.flatMap Thread.waiting

def causes (w : World α) : List Cause := w.threads.flatMap Thread.causes

end World

/-! ## What was noted before the first trigger -/

theorem early_of_triggers_eq_nil {w : World α} (h : w.triggers = []) : w.early = w.notes := by
  refine List.takeWhile_eq_self_iff.mpr fun n hn => ?_
  have hnone := List.filterMap_eq_nil_iff.mp h n hn
  simp [hnone]

theorem early_append {w : World α} (h : w.triggers ≠ []) (l : List (Nat × Note)) :
    (w.notes ++ l).takeWhile (fun n => n.2.cause?.isNone) = w.early := by
  obtain ⟨cause, hcause⟩ := List.exists_mem_of_ne_nil _ h
  obtain ⟨n, hn, hsome⟩ := List.mem_filterMap.mp hcause
  rw [List.takeWhile_append, if_neg]
  · rfl
  · intro hlength
    have hself := (List.takeWhile_prefix _).eq_of_length hlength
    have hisNone := List.takeWhile_eq_self_iff.mp hself n hn
    simp [hsome] at hisNone

/-! ## What a list of threads has to close -/

theorem flatMap_set_of_eq {β γ : Type} {f : β → List γ} {l : List β} {i : Nat} {x y : β}
    (hx : l[i]? = some x) (hf : f y = f x) : (l.set i y).flatMap f = l.flatMap f := by
  induction l generalizing i with
  | nil => rfl
  | cons z l ih =>
    cases i with
    | zero =>
      simp only [List.getElem?_cons_zero, Option.some.injEq] at hx
      subst hx
      simp [hf]
    | succ i => simp [ih (by simpa using hx)]

theorem waiting_eq_nil_of_causes {w : World α} (h : w.causes = []) : w.waiting = [] := by
  refine List.flatMap_eq_nil_iff.mpr fun t ht => ?_
  have hnone := List.flatMap_eq_nil_iff.mp h t ht
  cases t with
  | pass p => cases hnone
  | trigger cause begun => rfl
  | finished => rfl

theorem mem_causes_of_pass {w : World α} {i : Nat} {p : Pass α}
    (ht : w.threads[i]? = some (.pass p)) : p.cause ∈ w.causes :=
  List.mem_flatMap.mpr ⟨_, List.mem_of_getElem? ht, by simp [Thread.causes]⟩

theorem flatMap_isAsking {l : List (Thread α)} (h : ∀ t ∈ l, t.isAsking) :
    l.flatMap Thread.waiting = [] ∧ l.flatMap Thread.causes = [] := by
  constructor <;>
  · refine List.flatMap_eq_nil_iff.mpr fun t ht => ?_
    have hask := h t ht
    cases t with
    | pass p => cases hask
    | trigger cause begun => rfl
    | finished => rfl

/-- Closing by stages closes each resource that was registered. -/
theorem closingOrder_perm (entries : List (Entry α)) : (closingOrder entries).Perm entries := by
  have hstages : ∀ l : List (Entry α),
      (Stage.all.flatMap fun s => l.filter fun e => e.resource.stage == s).Perm l := by
    intro l
    induction l with
    | nil => exact .nil
    | cons e l ih =>
      refine .trans ?_ (ih.cons e)
      simp only [Stage.all, List.flatMap_cons, List.flatMap_nil, List.append_nil]
      cases hs : e.resource.stage with
      | background => simp [hs]
      | substrate => simp [hs]
      | infrastructure => simp [hs, ← List.append_assoc]
  exact (hstages entries.reverse).trans (List.reverse_perm entries)

/-! ## Standing of the shutdown -/

/-- How far the shutdown is: not begun, begun with one pass under way, or over. -/
inductive World.Standing (w : World α) : Prop
  | awaited (haccepting : w.coordinator.accepting = true) (hreport : w.coordinator.report = none)
      (hstate : w.coordinator.state = .bootstrapping ∨ w.coordinator.state = .running ∨
        w.coordinator.state = .failedStartup)
      (hcauses : w.causes = []) (htriggers : w.triggers = [])
  | underWay {cause : Cause} (haccepting : w.coordinator.accepting = false)
      (hreport : w.coordinator.report = none) (hstate : w.coordinator.state = .shuttingDown)
      (hentries : w.coordinator.entries = []) (hcauses : w.causes = [cause])
      (htriggers : w.triggers.head? = some cause)
  | ended {r : Report} (haccepting : w.coordinator.accepting = false)
      (hreport : w.coordinator.report = some r) (hstate : w.coordinator.state = .stopped)
      (hentries : w.coordinator.entries = []) (hcauses : w.causes = [])
      (htriggers : w.triggers.head? = some r.cause)

theorem World.Standing.congr {w w' : World α} (h : w.Standing)
    (haccepting : w'.coordinator.accepting = w.coordinator.accepting)
    (hreport : w'.coordinator.report = w.coordinator.report)
    (hstate : w'.coordinator.state = w.coordinator.state)
    (hentries : w.coordinator.accepting = false →
      w'.coordinator.entries = w.coordinator.entries)
    (hcauses : w'.causes = w.causes) (htriggers : w'.triggers = w.triggers) : w'.Standing := by
  cases h with
  | awaited h₁ h₂ h₃ h₄ h₅ =>
    exact .awaited (haccepting.trans h₁) (hreport.trans h₂) (hstate ▸ h₃) (hcauses.trans h₄)
      (htriggers.trans h₅)
  | underWay h₁ h₂ h₃ h₄ h₅ h₆ =>
    exact .underWay (haccepting.trans h₁) (hreport.trans h₂) (hstate.trans h₃)
      ((hentries h₁).trans h₄) (hcauses.trans h₅) (htriggers ▸ h₆)
  | ended h₁ h₂ h₃ h₄ h₅ h₆ =>
    exact .ended (haccepting.trans h₁) (hreport.trans h₂) (hstate.trans h₃)
      ((hentries h₁).trans h₄) (hcauses.trans h₅) (htriggers ▸ h₆)

theorem Note.pick_isPhase {β : Type} {f : Note → Option β} (hf : ∀ n : Note, n.isPhase → f n = none)
    {l : List (Nat × Note)} (hl : ∀ n ∈ l, n.2.isPhase) : Note.pick f l = [] :=
  List.filterMap_eq_nil_iff.mpr fun n hn => hf n.2 (hl n hn)

theorem World.Quiet.pick_notes {w w' : World α} (h : w.Quiet w') {β : Type} {f : Note → Option β}
    (hf : ∀ n : Note, n.isPhase → f n = none) : Note.pick f w'.notes = Note.pick f w.notes := by
  obtain ⟨l, hl, hphase⟩ := h.notes
  rw [hl, Note.pick_append, Note.pick_isPhase hf fun n hn => (hphase n hn).2, List.append_nil]

theorem World.Quiet.causes_eq {w w' : World α} (h : w.Quiet w') : w'.causes = w.causes := by
  obtain ⟨l, hl, hasking⟩ := h.threads
  rw [World.causes, hl, List.flatMap_append, (flatMap_isAsking hasking).2, List.append_nil,
    World.causes]

theorem World.Quiet.waiting_eq {w w' : World α} (h : w.Quiet w') : w'.waiting = w.waiting := by
  obtain ⟨l, hl, hasking⟩ := h.threads
  rw [World.waiting, hl, List.flatMap_append, (flatMap_isAsking hasking).1, List.append_nil,
    World.waiting]

theorem Note.cause?_of_isPhase (n : Note) (h : n.isPhase) : n.cause? = none := by
  cases n <;> first | rfl | cases h

theorem World.triggers_append {w : World α} {l : List (Nat × Note)}
    (hl : Note.pick Note.cause? l = []) : Note.pick Note.cause? (w.notes ++ l) = w.triggers := by
  rw [Note.pick_append, hl, List.append_nil, World.triggers]

theorem World.Standing.effect {a b : Scene α} (h : Effect phases a b) (hs : a.1.Standing) :
    b.1.Standing := by
  cases h with
  | quiet h hnotes =>
    refine hs.congr ?_ ?_ ?_ (fun _ => ?_) h.causes_eq (h.pick_notes Note.cause?_of_isPhase)
    all_goals rw [h.coordinator]
  | accept r hacc =>
    refine hs.congr rfl rfl rfl (fun hnot => ?_) rfl (World.triggers_append rfl)
    rw [hacc] at hnot
    cases hnot
  | refuse r hacc => exact hs.congr rfl rfl rfl (fun _ => rfl) rfl (World.triggers_append rfl)
  | settle c => exact hs.congr rfl rfl rfl (fun _ => rfl) rfl (World.triggers_append rfl)
  | giveUp l =>
    refine hs.congr rfl rfl rfl (fun _ => rfl) rfl (World.triggers_append ?_)
    simp [Note.pick, Note.cause?]
  | @shutDown w P cause hacc =>
    have hw : w.Standing := hs
    cases hw with
    | awaited _ hreport _ hcauses htriggers =>
      refine @World.Standing.underWay _ _ cause rfl hreport rfl rfl ?_ ?_
      · rw [World.causes] at hcauses
        simp [World.causes, hcauses, Thread.causes]
      · have happend := Note.pick_append Note.cause? w.notes
          [(w.now, .trigger cause), (w.now, .state .shuttingDown)]
        rw [World.triggers, happend, show Note.pick Note.cause? w.notes = [] from htriggers]
        rfl
    | underWay hnot => simp [hnot] at hacc
    | ended hnot => simp [hnot] at hacc
  | @ask w P cause hacc =>
    have hw : w.Standing := hs
    have happend := Note.pick_append Note.cause? w.notes [(w.now, .trigger cause)]
    cases hw with
    | awaited hyes => simp [hyes] at hacc
    | underWay _ hreport hstate hentries hcauses htriggers =>
      refine .underWay hacc hreport hstate hentries hcauses ?_
      rw [World.triggers, happend, List.head?_append]
      rw [World.triggers] at htriggers
      rw [htriggers, Option.some_or]
    | ended _ hreport hstate hentries hcauses htriggers =>
      refine .ended hacc hreport hstate hentries hcauses ?_
      rw [World.triggers, happend, List.head?_append]
      rw [World.triggers] at htriggers
      rw [htriggers, Option.some_or]
  | tell h => exact hs.congr rfl rfl rfl (fun _ => rfl) rfl (World.triggers_append rfl)
  | @leave w P s hstates hboot =>
    have hw : w.Standing := hs
    cases hw with
    | awaited hacc hreport _ hcauses htriggers =>
      exact .awaited hacc hreport (.inr hstates) hcauses
        ((World.triggers_append rfl).trans htriggers)
    | underWay _ _ hstate => simp [hstate] at hboot
    | ended _ _ hstate => simp [hstate] at hboot

theorem World.Standing.turn {a b : Scene α} (h : Turn a b) (hs : a.1.Standing) : b.1.Standing := by
  cases h with
  | effect h => exact hs.effect h
  | clock h => exact hs.congr rfl rfl rfl (fun _ => rfl) rfl rfl
  | listen l => exact hs.congr rfl rfl rfl (fun _ => rfl) rfl rfl
  | thread ht hcauses hwaiting =>
    exact hs.congr rfl rfl rfl (fun _ => rfl) (flatMap_set_of_eq ht hcauses) rfl
  | take ht hwaiting hcause =>
    refine hs.congr rfl rfl rfl (fun _ => rfl) (flatMap_set_of_eq ht ?_) rfl
    simp [Thread.causes, hcause]
  | @stop w P i p ht hwaiting =>
    have hw : w.Standing := hs
    have hmem := mem_causes_of_pass ht
    cases hw with
    | awaited _ _ _ hcauses => simp [hcauses] at hmem
    | @underWay cause hacc _ _ hentries hcauses htriggers =>
      rw [hcauses, List.mem_singleton] at hmem
      have hset := coe_flatMap_set Thread.causes ht Thread.finished
      rw [show w.threads.flatMap Thread.causes = [cause] from hcauses] at hset
      have hnil : (w.threads.set i .finished).flatMap Thread.causes = [] := by
        have hlength := congrArg Multiset.card hset
        simp only [Multiset.card_add, Multiset.coe_card] at hlength
        change _ + 1 = 1 + 0 at hlength
        exact List.length_eq_zero_iff.mp (by omega)
      refine .ended (r := p.report) hacc rfl rfl hentries hnil ?_
      rw [← hmem] at htriggers
      exact (congrArg List.head? (World.triggers_append rfl)).trans htriggers
    | ended _ _ _ _ hcauses => simp [hcauses] at hmem

theorem World.Standing.triggers_eq_nil_iff {w : World α} (h : w.Standing) :
    w.triggers = [] ↔ w.coordinator.accepting = true := by
  cases h with
  | awaited haccepting _ _ _ htriggers => simp [haccepting, htriggers]
  | underWay haccepting _ _ _ _ htriggers =>
    simp only [haccepting, Bool.false_eq_true, iff_false]
    intro hnil
    simp [hnil] at htriggers
  | ended haccepting _ _ _ _ htriggers =>
    simp only [haccepting, Bool.false_eq_true, iff_false]
    intro hnil
    simp [hnil] at htriggers

/-! ## The balances -/

def World.held (w : World α) : List Nat :=
  w.coordinator.entries.map Entry.ticket ++ w.waiting.map Entry.ticket

/-- The tickets of a scene are all accounted for. -/
structure Scene.Balanced (s : Scene α) : Prop where
  offered : s.1.offered = List.range s.1.coordinator.issued
  custody : (↑s.1.closings + ↑s.1.held : Multiset Nat) = ↑s.1.offered
  calls : (↑s.1.accepted + s.2.map Closing.ticket + ↑s.1.refused + ↑s.1.dropped : Multiset Nat) =
    ↑s.1.offered
  early : s.1.accepted = Note.pick Note.offered? s.1.early
  entries : s.1.coordinator.accepting = true →
    s.1.coordinator.entries.map Entry.ticket = s.1.accepted

theorem World.pick_early_append {w : World α} (hs : w.Standing) (l : List (Nat × Note)) :
    Note.pick Note.offered? ((w.notes ++ l).takeWhile fun n => n.2.cause?.isNone) =
      Note.pick Note.offered? w.early ++
        if w.coordinator.accepting then
          Note.pick Note.offered? (l.takeWhile fun n => n.2.cause?.isNone)
        else [] := by
  cases hacc : w.coordinator.accepting with
  | true =>
    have hnone := hs.triggers_eq_nil_iff.mpr hacc
    have hall : ∀ n ∈ w.notes, n.2.cause?.isNone := fun n hn => by
      rw [List.filterMap_eq_nil_iff.mp hnone n hn]
      rfl
    rw [List.takeWhile_append_of_pos hall, Note.pick_append, early_of_triggers_eq_nil hnone]
    rfl
  | false =>
    have hsome : w.triggers ≠ [] := fun hnil => by
      rw [hs.triggers_eq_nil_iff.mp hnil] at hacc
      cases hacc
    rw [early_append hsome]
    simp

theorem Note.pick_takeWhile {β : Type} {f : Note → Option β} {l : List (Nat × Note)}
    (hl : Note.pick f l = []) (p : Nat × Note → Bool) : Note.pick f (l.takeWhile p) = [] :=
  List.filterMap_eq_nil_iff.mpr fun n hn =>
    List.filterMap_eq_nil_iff.mp hl n ((List.takeWhile_sublist p).subset hn)

/-- A change that hands nothing over and closes nothing keeps the balances, where the hand-overs no
longer under way have come back refused or were given up. -/
theorem Scene.Balanced.note {w w' : World α} {P P' : Multiset (Closing Unit)}
    (hb : Scene.Balanced (w, P)) (hs : w.Standing) {l : List (Nat × Note)}
    (hnotes : w'.notes = w.notes ++ l) (hoffered : Note.pick Note.offered? l = [])
    (haccepted : Note.pick Note.accepted? l = [])
    (hback : (P'.map Closing.ticket + ↑(Note.pick Note.refused? l) + ↑(Note.pick Note.dropped? l) :
      Multiset Nat) = P.map Closing.ticket)
    (hissued : w'.coordinator.issued = w.coordinator.issued) (hclosings : w'.closings = w.closings)
    (hheld : (↑w'.held : Multiset Nat) = ↑w.held)
    (hentries : w'.coordinator.accepting = true → w.coordinator.accepting = true ∧
      w'.coordinator.entries = w.coordinator.entries) : Scene.Balanced (w', P') := by
  have hsameOffered : w'.offered = w.offered := by
    rw [World.offered, hnotes, Note.pick_append, hoffered, List.append_nil, World.offered]
  have hsameAccepted : w'.accepted = w.accepted := by
    rw [World.accepted, hnotes, Note.pick_append, haccepted, List.append_nil, World.accepted]
  constructor
  · rw [hsameOffered, hissued]
    exact hb.offered
  · rw [hclosings, hheld, hsameOffered]
    exact hb.custody
  · rw [hsameAccepted, hsameOffered, ← hb.calls, ← hback]
    simp only [World.refused, World.dropped, hnotes, Note.pick_append, ← Multiset.coe_add]
    abel
  · rw [hsameAccepted, World.early, hnotes, World.pick_early_append hs,
      Note.pick_takeWhile hoffered, ite_self, List.append_nil]
    exact hb.early
  · intro hacc
    obtain ⟨hacc', hsame⟩ := hentries hacc
    rw [hsame, hsameAccepted]
    exact hb.entries hacc'

theorem Note.pick_of_isPhase (f : Note → Option Nat) (hf : ∀ name, f (.phaseBegun name) = none)
    (hf' : ∀ name, f (.phaseDone name) = none) {l : List (Nat × Note)} (hl : ∀ n ∈ l, n.2.isPhase) :
    Note.pick f l = [] :=
  Note.pick_isPhase (fun n hn => by
    cases n <;> first | exact hf _ | exact hf' _ | cases hn) hl

theorem Scene.Balanced.quiet {w w' : World α} {P : Multiset (Closing Unit)} (h : w.Quiet w')
    (hs : w.Standing) (hb : Scene.Balanced (w, P)) : Scene.Balanced (w', P) := by
  obtain ⟨l, hl, hphase⟩ := h.notes
  have hnone : ∀ n ∈ l, n.2.isPhase := fun n hn => (hphase n hn).2
  refine hb.note hs hl (Note.pick_of_isPhase _ (fun _ => rfl) (fun _ => rfl) hnone)
    (Note.pick_of_isPhase _ (fun _ => rfl) (fun _ => rfl) hnone) ?_ (by rw [h.coordinator]) ?_ ?_
    (fun hacc => ?_)
  · rw [Note.pick_of_isPhase _ (fun _ => rfl) (fun _ => rfl) hnone,
      Note.pick_of_isPhase _ (fun _ => rfl) (fun _ => rfl) hnone]
    simp
  · obtain ⟨m, hm, hquiet⟩ := h.history
    have hpick : m.filterMap (fun e => e.2.closing?.map Prod.fst) = [] :=
      List.filterMap_eq_nil_iff.mpr fun e he => by rw [hquiet e he]; rfl
    rw [World.closings, hm, List.filterMap_append, hpick, List.append_nil, World.closings]
  · rw [World.held, h.waiting_eq, h.coordinator, World.held]
  · rw [h.coordinator] at hacc ⊢
    exact ⟨hacc, rfl⟩

theorem Scene.Balanced.effect {a b : Scene α} (h : Effect phases a b) (hs : a.1.Standing)
    (hb : a.Balanced) : b.Balanced := by
  cases h with
  | quiet h hnotes => exact hb.quiet h hs
  | @accept w P r hacc =>
    -- the new ticket is the last one issued, and goes to what the coordinator holds
    obtain ⟨hoffered, hcustody, hcalls, hearly, hentries⟩ := hb
    simp only at hoffered hcustody hcalls hearly hentries
    constructor
    · simp only [World.offered, Note.pick_append] at hoffered ⊢
      rw [hoffered, List.range_succ]
      rfl
    · simp only [World.held, World.offered, Note.pick_append, List.map_append,
        ← Multiset.coe_add] at hcustody ⊢
      rw [← hcustody]
      change _ + (_ + Multiset.ofList [w.coordinator.issued] + _) =
        _ + (_ + _) + Multiset.ofList [w.coordinator.issued]
      simp only [World.closings, World.waiting]
      abel
    · simp only [World.accepted, World.refused, World.dropped, World.offered, Note.pick_append,
        ← Multiset.coe_add] at hcalls ⊢
      rw [← hcalls]
      change _ + Multiset.ofList [w.coordinator.issued] + _ + (_ + 0) + (_ + 0) =
        _ + Multiset.ofList [w.coordinator.issued]
      abel
    · rw [World.early, World.pick_early_append hs, hacc, ← hearly, World.accepted,
        Note.pick_append]
      rfl
    · intro _
      rw [World.accepted, Note.pick_append, List.map_append, hentries hacc]
      rfl
  | @refuse w P r hacc =>
    -- the new ticket goes to the closes that have begun, and the hand-over is under way
    obtain ⟨hoffered, hcustody, hcalls, hearly, hentries⟩ := hb
    simp only at hoffered hcustody hcalls hearly hentries
    constructor
    · simp only [World.offered, Note.pick_append] at hoffered ⊢
      rw [hoffered, List.range_succ]
      rfl
    · simp only [World.closings, World.offered, Note.pick_append, List.filterMap_append,
        ← Multiset.coe_add] at hcustody ⊢
      rw [← hcustody]
      change _ + Multiset.ofList [w.coordinator.issued] + _ =
        _ + _ + Multiset.ofList [w.coordinator.issued]
      simp only [World.held, World.waiting]
      abel
    · simp only [World.accepted, World.refused, World.dropped, World.offered, Note.pick_append,
        ← Multiset.coe_add, Multiset.map_cons] at hcalls ⊢
      rw [← hcalls, ← Multiset.singleton_add]
      change _ + 0 + (Multiset.ofList [w.coordinator.issued] + _) + (_ + 0) + (_ + 0) =
        _ + Multiset.ofList [w.coordinator.issued]
      abel
    · rw [World.early, World.pick_early_append hs, hacc, ← hearly, World.accepted,
        Note.pick_append]
      rfl
    · intro hyes
      rw [hacc] at hyes
      cases hyes
  | @settle w P c =>
    exact hb.note hs rfl rfl rfl
      (by simp [Note.pick, Note.refused?, Note.dropped?, add_comm]) rfl rfl
      rfl (fun h => ⟨h, rfl⟩)
  | @giveUp w P l =>
    have hnone : ∀ f : Note → Option Nat, (∀ t, f (.dropped t) = none) →
        Note.pick f (l.map fun c => (w.now, .dropped c.ticket)) = [] := fun f hf => by
      simp [Note.pick, hf]
    refine hb.note hs rfl (hnone _ fun _ => rfl) (hnone _ fun _ => rfl) ?_ rfl rfl rfl
      (fun h => ⟨h, rfl⟩)
    rw [hnone _ fun _ => rfl]
    simp [Note.pick, Note.dropped?, add_comm]
  | @shutDown w P cause hacc =>
    refine hb.note hs rfl rfl rfl (by simp [Note.pick, Note.refused?, Note.dropped?]) rfl rfl ?_
      (by simp)
    -- what was held is what the pass has to close, in another order
    have hperm := (closingOrder_perm w.coordinator.entries).map Entry.ticket
    simp only [World.held, World.waiting, List.flatMap_append, List.map_append, ← Multiset.coe_add]
    rw [← Multiset.coe_eq_coe.mpr hperm]
    simp [Thread.waiting, add_comm]
  | ask cause hacc =>
    exact hb.note hs rfl rfl rfl (by simp [Note.pick, Note.refused?, Note.dropped?]) rfl rfl rfl
      (fun h => ⟨h, rfl⟩)
  | tell h =>
    exact hb.note hs rfl rfl rfl (by simp [Note.pick, Note.refused?, Note.dropped?]) rfl rfl rfl
      (fun h => ⟨h, rfl⟩)
  | leave hstate h =>
    exact hb.note hs rfl rfl rfl (by simp [Note.pick, Note.refused?, Note.dropped?]) rfl rfl rfl
      (fun h => ⟨h, rfl⟩)

/-- The pass takes one of the resources that wait for it. -/
theorem coe_waiting_of_take {w : World α} {i : Nat} {p p' : Pass α} {e : Entry α}
    (ht : w.threads[i]? = some (.pass p)) (hwaiting : p.waiting = e :: p'.waiting) :
    Multiset.ofList w.waiting =
      ↑((w.threads.set i (.pass p')).flatMap Thread.waiting) + Multiset.ofList [e] := by
  have hset := coe_flatMap_set Thread.waiting ht (Thread.pass p')
  have hsplit : Multiset.ofList (Thread.pass p).waiting = Multiset.ofList [e] + ↑p'.waiting := by
    rw [Multiset.coe_add]
    exact congrArg _ hwaiting
  rw [hsplit, ← add_assoc] at hset
  exact (add_right_cancel hset).symm

theorem Scene.Balanced.turn {a b : Scene α} (h : Turn a b) (hs : a.1.Standing)
    (hb : a.Balanced) : b.Balanced := by
  cases h with
  | effect h => exact hb.effect h hs
  | clock h => exact ⟨hb.offered, hb.custody, hb.calls, hb.early, hb.entries⟩
  | listen l => exact ⟨hb.offered, hb.custody, hb.calls, hb.early, hb.entries⟩
  | @thread w P i t t' ht hcauses hwaiting =>
    refine ⟨hb.offered, ?_, hb.calls, hb.early, hb.entries⟩
    have hsame := flatMap_set_of_eq (f := Thread.waiting) ht hwaiting
    have hcustody := hb.custody
    simp only [World.held, World.waiting, hsame] at hcustody ⊢
    exact hcustody
  | @take w P i p p' e ht hwaiting hcause =>
    refine ⟨hb.offered, ?_, hb.calls, hb.early, hb.entries⟩
    have hcustody := hb.custody
    simp only [World.held, World.closings, World.offered, ← Multiset.coe_add, List.filterMap_append,
      ← Multiset.map_coe] at hcustody ⊢
    rw [coe_waiting_of_take ht hwaiting, Multiset.map_add] at hcustody
    rw [← hcustody]
    simp only [World.waiting]
    change _ + Multiset.ofList [e.ticket] + _ = _ + (_ + (_ + Multiset.ofList [e.ticket]))
    abel
  | @stop w P i p ht hwaiting =>
    refine hb.note hs rfl rfl rfl (by simp [Note.pick, Note.refused?, Note.dropped?]) rfl rfl ?_
      (fun h => ⟨h, rfl⟩)
    have hsame := flatMap_set_of_eq (f := Thread.waiting) (y := Thread.finished) ht hwaiting.symm
    simp only [World.held, World.waiting, hsame]

/-! ## Runs -/

def Scene.start (closeTimeout : Duration) : Scene α := ({ coordinator := { closeTimeout } }, 0)

theorem Turns.standing {closeTimeout : Duration} {s : Scene α}
    (h : Turns (Scene.start closeTimeout) s) : s.1.Standing := by
  induction h with
  | refl => exact .awaited rfl rfl (.inl rfl) rfl rfl
  | tail _ hturn ih => exact ih.turn hturn

theorem Turns.balanced {closeTimeout : Duration} {s : Scene α}
    (h : Turns (Scene.start closeTimeout) s) : s.Balanced := by
  induction h with
  | refl => exact ⟨rfl, rfl, rfl, rfl, fun _ => rfl⟩
  | tail hturns hturn ih => exact ih.turn hturn (Turns.standing hturns)

end EventIntake.Lifecycle
