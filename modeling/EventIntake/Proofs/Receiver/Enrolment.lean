import EventIntake.Proofs.Lifecycle.Enrolment
import EventIntake.Proofs.Receiver.Teardown

/-!
# What the start of a receiver hands over

The names and the stages of what a receiver hands over, and the order in which it does, say what has
to come before what: the publisher is accepted before the watch is handed over, and before anything
that the watch uses is closed the close of the watch is over.
-/

namespace EventIntake

open Lifecycle (Action Enrolment Entry Resource phaseOffers)

theorem Lifecycle.offers_sublist (actions : List (Action Unit)) :
    (Lifecycle.offers actions).Sublist (actions.flatMap Action.resources) := by
  induction actions with
  | nil => exact .slnil
  | cons a rest ih =>
    cases a with
    | register r => exact ih.cons_cons r
    | tryRegister r => exact ih.cons r
    | deploy deadline workers => exact ih.trans (List.sublist_append_right _ _)
    | _ => exact ih

namespace Receiver

variable {r : Receiver}

theorem phaseOffers_sublist (r : Receiver) : (phaseOffers r.phases).Sublist r.resources := by
  refine .trans ?_ r.mentions_sublist
  generalize r.phases = phases
  induction phases with
  | nil => exact .slnil
  | cons p rest ih => exact (Lifecycle.offers_sublist p.body).append ih

/-- The publisher is handed over before the watch. -/
theorem phaseOffers_eq (r : Receiver) : ∃ before after,
    phaseOffers r.phases = before ++ r.contractWatcher :: after ∧ r.contractPublisher ∈ before := by
  refine ⟨phaseOffers (r.phases.take 6) ++ [r.contractPublisher],
    Lifecycle.offers (orFail id (fun _ => [.register r.signalListener]) r.host.signals), ?_,
    by simp⟩
  simp [phases, steps, phaseOffers, Lifecycle.offers, Action.offer?]

theorem eq_of_name {a b : Resource (Action Unit)} (ha : a ∈ r.resources) (hb : b ∈ r.resources)
    (hname : a.name = b.name) : a = b :=
  List.inj_on_of_nodup_map r.resources_nodup ha hb hname

end Receiver

namespace Lifecycle.Enrolment.Keeps

variable {r : Receiver} {x : Enrolment Unit}

theorem mem_resources (h : x.Keeps r.settings.closeTimeout r.phases) {e : Entry Unit}
    (he : e ∈ x.handed) : e.resource ∈ r.resources :=
  r.phaseOffers_sublist.subset (h.resources.subset (List.mem_map_of_mem he))

theorem contractWatcher_eq (h : x.Keeps r.settings.closeTimeout r.phases) {e : Entry Unit}
    (he : e ∈ x.handed) (hname : e.resource.name = Watch.name) : e.resource = r.contractWatcher :=
  Receiver.eq_of_name (h.mem_resources he) (by simp [Receiver.resources]) hname

theorem aligned (h : x.Keeps r.settings.closeTimeout r.phases) {e f : Entry Unit}
    (he : e ∈ x.handed) (hf : f ∈ x.handed) : e.Aligned f := by
  refine Entry.aligned_of_pairwise ?_ h.world.order he hf
  rw [← List.pairwise_map]
  exact (r.resources_later.sublist r.phaseOffers_sublist).sublist h.resources.sublist

/-- Of two resources the one that is torn down first was handed over last. -/
theorem ticket_lt (h : x.Keeps r.settings.closeTimeout r.phases) {e f : Entry Unit}
    (he : e ∈ x.handed) (hf : f ∈ x.handed)
    (hrank : teardownRank e.resource.name < teardownRank f.resource.name) :
    f.ticket < e.ticket := by
  obtain ⟨hlt, -, heq⟩ := h.aligned he hf
  rcases Nat.lt_trichotomy e.ticket f.ticket with hticket | hticket | hticket
  · exact absurd (hlt hticket).1 (Nat.not_le.mpr hrank)
  · rw [heq hticket] at hrank
    exact absurd hrank (Nat.lt_irrefl _)
  · exact hticket

theorem mem_accepted (h : x.Keeps r.settings.closeTimeout r.phases) {e f : Entry Unit}
    (he : e ∈ x.handed) (hf : f ∈ x.handed) (hticket : f.ticket < e.ticket) :
    f.ticket ∈ x.process.world.accepted := by
  refine h.accepted f ?_
  have hne : x.handed ≠ [] := List.ne_nil_of_mem he
  rw [← List.dropLast_append_getLast hne] at hf
  refine (List.mem_append.mp hf).resolve_right fun hlast => ?_
  -- nothing has a higher ticket than what was handed over last
  have horder := h.world.order
  rw [← List.dropLast_append_getLast hne] at he horder
  rw [List.mem_singleton.mp hlast] at hticket
  rcases List.mem_append.mp he with he | he
  · exact Nat.lt_asymm hticket
      ((List.pairwise_append.mp horder).2.2 e he _ (List.mem_singleton_self _))
  · rw [List.mem_singleton.mp he] at hticket
    exact Nat.lt_irrefl _ hticket

/-- When the watch is handed over the publisher has been accepted. -/
theorem publisher_accepted (h : x.Keeps r.settings.closeTimeout r.phases) {e : Entry Unit}
    (he : e ∈ x.handed) (hname : e.resource.name = Watch.name) : x.isAccepted Publisher.name := by
  obtain ⟨before, after, hoffers, hpublisher⟩ := r.phaseOffers_eq
  have hnodup := (r.resources_nodup.sublist (r.phaseOffers_sublist.map _))
  have hprefix := h.resources
  have hmem : r.contractWatcher ∈ x.handed.map Entry.resource := by
    rw [← h.contractWatcher_eq he hname]
    exact List.mem_map_of_mem he
  rw [hoffers] at hnodup hprefix
  have hbefore : before <+: x.handed.map Entry.resource := by
    rcases List.prefix_or_prefix_of_prefix hprefix (List.prefix_append before _) with hshort | hlong
    · have hin : Watch.name ∈ before.map Resource.name :=
        List.mem_map_of_mem (f := Resource.name) (hshort.subset hmem)
      rw [List.map_append, List.nodup_append] at hnodup
      exact absurd rfl (hnodup.2.2 _ hin _ List.mem_cons_self)
    · exact hlong
  obtain ⟨f, hf, hresource⟩ := List.mem_map.mp (hbefore.subset hpublisher)
  have hfname : f.resource.name = Publisher.name := by
    rw [hresource]
    rfl
  refine has_iff.mpr ⟨f, hf, hfname, h.mem_accepted he hf (h.ticket_lt he hf ?_)⟩
  rw [hname, hfname]
  decide

/-- The watch is closed before what it uses. -/
theorem closesBefore (h : x.Keeps r.settings.closeTimeout r.phases) {e f : Entry Unit}
    (he : e ∈ x.handed) (hf : f ∈ x.handed) (huses : Uses e.resource.name f.resource.name)
    (hname : e.resource.name = Watch.name) : e.ClosesBefore f := by
  have hticket := h.ticket_lt he hf huses.rank_lt
  have hstage : e.resource.stage = .background := by
    rw [h.contractWatcher_eq he hname]
    rfl
  cases hs : f.resource.stage with
  | background => exact .inr ⟨hstage.trans hs.symm, hticket⟩
  | substrate =>
    refine .inl ?_
    rw [hstage, hs]
    decide
  | infrastructure =>
    refine .inl ?_
    rw [hstage, hs]
    decide

/-- **Before the close of anything that the watch uses has begun the one of the watch is over.** -/
theorem watch_isOver (h : x.Keeps r.settings.closeTimeout r.phases)
    (hwatch : x.isAccepted Watch.name) {name : String} (huses : Uses Watch.name name)
    (hclosing : x.isClosing name) :
    x.isClosed Watch.name ∨
      ∃ failure ∈ x.process.world.failures, failure.resource = Watch.name := by
  obtain ⟨e, he, hname, hea⟩ := has_iff.mp hwatch
  obtain ⟨f, hf, hfname, hbegun⟩ := has_iff.mp hclosing
  have huses' : Uses e.resource.name f.resource.name := by rwa [hname, hfname]
  have hfa := h.mem_accepted he hf (h.ticket_lt he hf huses'.rank_lt)
  have hover := h.isOver he hf hea hfa (h.closesBefore he hf huses' hname) hbegun
  rw [← hname]
  exact hover.imp (fun hended => has_iff.mpr ⟨e, he, rfl, hended⟩) id

theorem accepting_eq_false (h : x.Keeps r.settings.closeTimeout r.phases) {name : String}
    (hclosing : x.isClosing name) : x.process.world.coordinator.accepting = false := by
  obtain ⟨f, -, -, hbegun⟩ := has_iff.mp hclosing
  cases hacc : x.process.world.coordinator.accepting with
  | false => rfl
  | true =>
    have hnone := h.balanced.closings_eq_nil h.standing (h.standing.triggers_eq_nil_iff.mpr hacc)
    have hnil : x.process.world.closings = [] := hnone
    rw [hnil] at hbegun
    cases hbegun

end Lifecycle.Enrolment.Keeps

end EventIntake
