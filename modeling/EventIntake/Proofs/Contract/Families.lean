import EventIntake.Contract.Publisher
import EventIntake.Proofs.Lists
import EventIntake.Proofs.Messaging.Delivery
import Mathlib.Logic.Relation

/-!
# Families of publishers

Publishers are created and cloned, clones of clones too, and each of them has handles to close it
with.  The history of what was done tells who is related: `Kin` is the least equivalence in which a
clone is related to the publisher it was cloned from.  Closing a handle of one closes all that are
related to it, later clones included, and nobody else (`Shut`).

* `Families`: the family of each publisher and the state of each family agree with the history.
  Creating, cloning and closing keep it, and nothing else touches it.
* `Families.kin_iff`, `Families.shut_iff`, `Families.address_iff`: what it says of one publisher.
* `Families.apart`: who was created apart is never related.
-/

namespace EventIntake.Publishing

inductive Event where
  | created (i : Nat) (address : String)
  /-- Publisher `i` was cloned from `j`. -/
  | cloned (i j : Nat)
  | published (i : Nat) (m : Message)
  | closed (i : Nat)
  | bus (e : Bus.Event)

/-! ## What a history tells -/

def Member (h : List Event) (i : Nat) : Prop := (∃ a, .created i a ∈ h) ∨ ∃ j, .cloned i j ∈ h

/-- Publishers that were cloned from one another, in however many steps. -/
def Kin (h : List Event) : Nat → Nat → Prop := Relation.EqvGen fun i j => .cloned i j ∈ h

/-- A handle of a publisher of the family has been closed. -/
def Shut (h : List Event) (i : Nat) : Prop := ∃ j, Kin h i j ∧ .closed j ∈ h

def Address (h : List Event) (i : Nat) (a : String) : Prop := ∃ r, Kin h i r ∧ .created r a ∈ h

variable {h h' : List Event} {e : Event} {i j f n : Nat} {a b path : String}

theorem Kin.mono (hsub : h ⊆ h') (hkin : Kin h i j) : Kin h' i j :=
  Relation.EqvGen.mono (fun _ _ hmem => hsub hmem) _ _ hkin

theorem Address.mono (hsub : h ⊆ h') (haddress : Address h i a) : Address h' i a := by
  obtain ⟨r, hkin, hcreated⟩ := haddress
  exact ⟨r, hkin.mono hsub, hsub hcreated⟩

theorem mem_concat_of_ne {x : Event} (hne : x ≠ e) : x ∈ h ++ [e] ↔ x ∈ h := by
  rw [List.mem_append, List.mem_singleton, or_iff_left hne]

theorem kin_concat (hcloned : ∀ i j, Event.cloned i j ≠ e) : Kin (h ++ [e]) i j ↔ Kin h i j := by
  have hsame : (fun i j => Event.cloned i j ∈ h ++ [e]) = fun i j => Event.cloned i j ∈ h :=
    funext fun i => funext fun j => propext (mem_concat_of_ne (hcloned i j))
  rw [Kin, hsame, Kin]

theorem member_created :
    Member (h ++ [.created n a]) i ↔ Member h i ∨ i = n := by
  simp only [Member, List.mem_append, List.mem_singleton, Event.created.injEq, reduceCtorEq,
    or_false]
  constructor
  · rintro (⟨a', hold | ⟨rfl, -⟩⟩ | hcloned)
    · exact .inl (.inl ⟨a', hold⟩)
    · exact .inr rfl
    · exact .inl (.inr hcloned)
  · rintro ((⟨a', hold⟩ | hcloned) | rfl)
    · exact .inl ⟨a', .inl hold⟩
    · exact .inr hcloned
    · exact .inl ⟨a, .inr ⟨rfl, rfl⟩⟩

theorem member_cloned : Member (h ++ [.cloned n j]) i ↔ Member h i ∨ i = n := by
  simp only [Member, List.mem_append, List.mem_singleton, Event.cloned.injEq, reduceCtorEq,
    or_false]
  constructor
  · rintro (hcreated | ⟨j', hold | ⟨rfl, -⟩⟩)
    · exact .inl (.inl hcreated)
    · exact .inl (.inr ⟨j', hold⟩)
    · exact .inr rfl
  · rintro ((hcreated | ⟨j', hold⟩) | rfl)
    · exact .inl hcreated
    · exact .inr ⟨j', .inl hold⟩
    · exact .inr ⟨j, .inr ⟨rfl, rfl⟩⟩

/-! ## Families -/

/-- The family of each publisher and the state of each family are what the history says. -/
structure Families (members : List Nat) (publishers : List Publisher) (h : List Event) : Prop where
  known : ∀ i, i < members.length ↔ Member h i
  closing : ∀ i, .closed i ∈ h → i < members.length
  bound : ∀ (i f : Nat), members[i]? = some f → f < publishers.length
  cloned : ∀ i j, .cloned i j ∈ h → members[i]? = members[j]?
  created : ∀ r a, .created r a ∈ h →
    ∃ (f : Nat) (p : Publisher), members[r]? = some f ∧ publishers[f]? = some p ∧ p.address = a
  /-- One publisher of each family was created, and all are related to that one. -/
  founded : ∀ (f : Nat) (p : Publisher), publishers[f]? = some p →
    ∃ r, .created r p.address ∈ h ∧ (∀ i : Nat, members[i]? = some f → Kin h i r) ∧
      ∀ r' a, .created r' a ∈ h → members[r']? = some f → r' = r
  closed : ∀ (f : Nat) (p : Publisher), publishers[f]? = some p →
    (p.closed = true ↔ ∃ i : Nat, members[i]? = some f ∧ .closed i ∈ h)

variable {members : List Nat} {publishers : List Publisher} {p : Publisher}

namespace Families

theorem start : Families [] [] [] where
  known := fun i => by simp [Member]
  closing := nofun
  bound := nofun
  cloned := nofun
  created := nofun
  founded := nofun
  closed := nofun

/-! ### What they say of one publisher -/

theorem exists_publisher (k : Families members publishers h) (hi : Member h i) :
    ∃ f p, members[i]? = some f ∧ publishers[f]? = some p := by
  have hlt := (k.known i).mpr hi
  have hfamily := List.getElem?_eq_getElem hlt
  exact ⟨_, _, hfamily, List.getElem?_eq_getElem (k.bound i _ hfamily)⟩

theorem family_eq_of_kin (k : Families members publishers h) (hkin : Kin h i j) :
    members[i]? = members[j]? := by
  induction hkin with
  | rel i j hcloned => exact k.cloned i j hcloned
  | refl i => rfl
  | symm i j _ ih => exact ih.symm
  | trans i j l _ _ ih ih' => exact ih.trans ih'

/-- **Publishers are related when they are of one family.** -/
theorem kin_iff (k : Families members publishers h) (hi : members[i]? = some f) :
    Kin h i j ↔ members[j]? = some f := by
  refine ⟨fun hkin => (k.family_eq_of_kin hkin).symm.trans hi, fun hj => ?_⟩
  obtain ⟨r, -, hfounded, -⟩ := k.founded f _ (List.getElem?_eq_getElem (k.bound i f hi))
  exact (hfounded i hi).trans _ _ _ ((hfounded j hj).symm _ _)

theorem shut_iff (k : Families members publishers h) (hi : members[i]? = some f)
    (hp : publishers[f]? = some p) : p.closed = true ↔ Shut h i := by
  rw [k.closed f p hp]
  exact exists_congr fun j => and_congr_left' (k.kin_iff hi).symm

theorem address_iff (k : Families members publishers h) (hi : members[i]? = some f)
    (hp : publishers[f]? = some p) : Address h i a ↔ a = p.address := by
  constructor
  · rintro ⟨r, hkin, hcreated⟩
    obtain ⟨f', p', hr, hp', rfl⟩ := k.created r a hcreated
    obtain rfl : f' = f := Option.some.inj (hr.symm.trans ((k.kin_iff hi).mp hkin))
    rw [Option.some.inj (hp.symm.trans hp')]
  · rintro rfl
    obtain ⟨r, hcreated, hfounded, -⟩ := k.founded f p hp
    exact ⟨r, hfounded i hi, hcreated⟩

/-- Publishers that were created, and not cloned, are of different families. -/
theorem apart (k : Families members publishers h) (hi : .created i a ∈ h) (hj : .created j b ∈ h)
    (hkin : Kin h i j) : i = j := by
  obtain ⟨f, p, hfamily, hp, -⟩ := k.created i a hi
  obtain ⟨r, -, -, hunique⟩ := k.founded f p hp
  rw [hunique i a hi hfamily, hunique j b hj ((k.kin_iff hfamily).mp hkin)]

/-! ### What keeps them -/

theorem lt_of_created (k : Families members publishers h) (hcreated : .created i a ∈ h) :
    i < members.length :=
  (k.known i).mpr (.inl ⟨a, hcreated⟩)

theorem lt_of_cloned (k : Families members publishers h) (hcloned : .cloned i j ∈ h) :
    i < members.length ∧ j < members.length := by
  have hi : i < members.length := (k.known i).mpr (.inr ⟨j, hcloned⟩)
  have hsame := k.cloned i j hcloned
  rw [List.getElem?_eq_getElem hi] at hsame
  exact ⟨hi, (List.getElem?_eq_some_iff.mp hsame.symm).1⟩

theorem cloned_concat (k : Families members publishers h) (hcloned : .cloned i j ∈ h) (n : Nat) :
    (members ++ [n])[i]? = (members ++ [n])[j]? := by
  obtain ⟨hi, hj⟩ := k.lt_of_cloned hcloned
  rw [List.getElem?_append_left hi, List.getElem?_append_left hj, k.cloned i j hcloned]

theorem closed_concat (k : Families members publishers h) (hclosed : ∀ i, Event.closed i ≠ e) :
    (∃ i, (members ++ [n])[i]? = some f ∧ .closed i ∈ h ++ [e]) ↔
      ∃ i, members[i]? = some f ∧ .closed i ∈ h := by
  refine exists_congr fun i => ?_
  rw [mem_concat_of_ne (hclosed i)]
  refine and_congr_left fun hmem => ?_
  rw [List.getElem?_append_left (k.closing i hmem)]

theorem create (k : Families members publishers h) (a : String) :
    Families (members ++ [publishers.length]) (publishers ++ [{ address := a }])
      (h ++ [.created members.length a]) := by
  have hold : ∀ {f p}, publishers[f]? = some p → f < publishers.length :=
    fun hp => (List.getElem?_eq_some_iff.mp hp).1
  constructor
  case known =>
    intro i
    rw [member_created, ← k.known, List.length_append, List.length_singleton]
    omega
  case closing =>
    intro i hmem
    rw [mem_concat_of_ne (by simp)] at hmem
    rw [List.length_append]
    exact Nat.lt_add_right _ (k.closing i hmem)
  case bound =>
    intro i f hi
    rw [List.length_append, List.length_singleton]
    rcases getElem?_concat_cases hi with hi | ⟨-, rfl⟩
    · exact Nat.lt_succ_of_lt (k.bound i f hi)
    · exact Nat.lt_succ_self _
  case cloned =>
    intro i j hmem
    rw [mem_concat_of_ne (by simp)] at hmem
    exact k.cloned_concat hmem _
  case created =>
    intro r b hmem
    rcases List.mem_append.mp hmem with hmem | hmem
    · obtain ⟨f, p, hr, hp, haddress⟩ := k.created r b hmem
      exact ⟨f, p, getElem?_append_of_some hr _, getElem?_append_of_some hp _, haddress⟩
    · cases List.mem_singleton.mp hmem
      exact ⟨_, _, List.getElem?_concat_length .., List.getElem?_concat_length .., rfl⟩
  case founded =>
    intro f p hp
    rcases getElem?_concat_cases hp with hp | ⟨rfl, rfl⟩
    · obtain ⟨r, hcreated, hkin, hunique⟩ := k.founded f p hp
      refine ⟨r, List.mem_append_left _ hcreated, fun i hi => ?_, fun r' b hmem hr' => ?_⟩
      · rcases getElem?_concat_cases hi with hi | ⟨-, rfl⟩
        · exact (hkin i hi).mono (List.subset_append_left _ _)
        · exact absurd (hold hp) (Nat.lt_irrefl _)
      · rcases getElem?_concat_cases hr' with hr' | ⟨-, rfl⟩
        · rcases List.mem_append.mp hmem with hmem | hmem
          · exact hunique r' b hmem hr'
          · cases List.mem_singleton.mp hmem
            exact absurd (List.getElem?_eq_some_iff.mp hr').1 (Nat.lt_irrefl _)
        · exact absurd (hold hp) (Nat.lt_irrefl _)
    · -- the new publisher is so far the only one of its family
      have hlast : ∀ i, (members ++ [publishers.length])[i]? = some publishers.length →
          i = members.length := by
        intro i hi
        rcases getElem?_concat_cases hi with hi | ⟨rfl, -⟩
        · exact absurd (k.bound i _ hi) (Nat.lt_irrefl _)
        · rfl
      refine ⟨members.length, by simp, fun i hi => ?_, fun r' b _ hr' => hlast r' hr'⟩
      rw [hlast i hi]
      exact .refl _
  case closed =>
    intro f p hp
    rw [k.closed_concat (by simp)]
    rcases getElem?_concat_cases hp with hp | ⟨rfl, rfl⟩
    · exact k.closed f p hp
    · refine ⟨nofun, fun ⟨i, hi, _⟩ => ?_⟩
      exact absurd (k.bound i _ hi) (Nat.lt_irrefl _)

theorem clone (k : Families members publishers h) (hi : members[i]? = some f) :
    Families (members ++ [f]) publishers (h ++ [.cloned members.length i]) := by
  constructor
  case known =>
    intro j
    rw [member_cloned, ← k.known, List.length_append, List.length_singleton]
    omega
  case closing =>
    intro j hmem
    rw [mem_concat_of_ne (by simp)] at hmem
    rw [List.length_append]
    exact Nat.lt_add_right _ (k.closing j hmem)
  case bound =>
    intro j f' hj
    rcases getElem?_concat_cases hj with hj | ⟨-, rfl⟩
    · exact k.bound j f' hj
    · exact k.bound i f' hi
  case cloned =>
    intro j l hmem
    rcases List.mem_append.mp hmem with hmem | hmem
    · exact k.cloned_concat hmem f
    · cases List.mem_singleton.mp hmem
      rw [List.getElem?_concat_length, getElem?_append_of_some hi]
  case created =>
    intro r b hmem
    rw [mem_concat_of_ne (by simp)] at hmem
    obtain ⟨f', p, hr, hp⟩ := k.created r b hmem
    exact ⟨f', p, getElem?_append_of_some hr _, hp⟩
  case founded =>
    intro f' p hp
    obtain ⟨r, hcreated, hkin, hunique⟩ := k.founded f' p hp
    have hsub := List.subset_append_left h [.cloned members.length i]
    refine ⟨r, hsub hcreated, fun j hj => ?_, fun r' b hmem hr' => ?_⟩
    · rcases getElem?_concat_cases hj with hj | ⟨rfl, rfl⟩
      · exact (hkin j hj).mono hsub
      · -- the clone is related to what it was cloned from, and so to the founder
        have hclone : Kin (h ++ [.cloned members.length i]) members.length i := .rel _ _ (by simp)
        exact hclone.trans _ _ _ ((hkin i hi).mono hsub)
    · rw [mem_concat_of_ne (by simp)] at hmem
      rw [List.getElem?_append_left (k.lt_of_created hmem)] at hr'
      exact hunique r' b hmem hr'
  case closed =>
    intro f' p hp
    rw [k.closed_concat (by simp)]
    exact k.closed f' p hp

theorem close (k : Families members publishers h) (hi : members[i]? = some f) :
    Families members (publishers.modify f (·.close)) (h ++ [.closed i]) := by
  have hget : ∀ {f' p'}, (publishers.modify f (·.close))[f']? = some p' →
      ∃ p, publishers[f']? = some p ∧ p' = if f = f' then p.close else p := by
    intro f' p' hp'
    rw [List.getElem?_modify] at hp'
    obtain ⟨p, hp, rfl⟩ := Option.map_eq_some_iff.mp hp'
    exact ⟨p, hp, rfl⟩
  have haddress : ∀ p : Publisher, ∀ f', (if f = f' then p.close else p).address = p.address := by
    intro p f'
    split <;> rfl
  constructor
  case known =>
    intro j
    rw [k.known]
    simp [Member]
  case closing =>
    intro j hmem
    rcases List.mem_append.mp hmem with hmem | hmem
    · exact k.closing j hmem
    · cases List.mem_singleton.mp hmem
      exact (List.getElem?_eq_some_iff.mp hi).1
  case bound =>
    intro j f' hj
    rw [List.length_modify]
    exact k.bound j f' hj
  case cloned =>
    intro j l hmem
    rw [mem_concat_of_ne (by simp)] at hmem
    exact k.cloned j l hmem
  case created =>
    intro r b hmem
    rw [mem_concat_of_ne (by simp)] at hmem
    obtain ⟨f', p, hr, hp, rfl⟩ := k.created r b hmem
    exact ⟨f', _, hr, by rw [List.getElem?_modify, hp]; rfl, haddress p f'⟩
  case founded =>
    intro f' p' hp'
    obtain ⟨p, hp, rfl⟩ := hget hp'
    obtain ⟨r, hcreated, hkin, hunique⟩ := k.founded f' p hp
    rw [haddress]
    refine ⟨r, List.mem_append_left _ hcreated, fun j hj => ?_, fun r' b hmem hr' => ?_⟩
    · exact (hkin j hj).mono (List.subset_append_left _ _)
    · rw [mem_concat_of_ne (by simp)] at hmem
      exact hunique r' b hmem hr'
  case closed =>
    intro f' p' hp'
    obtain ⟨p, hp, rfl⟩ := hget hp'
    by_cases hsame : f = f'
    · subst hsame
      rw [if_pos rfl]
      exact ⟨fun _ => ⟨i, hi, by simp⟩, fun _ => rfl⟩
    · rw [if_neg hsame, k.closed f' p hp]
      refine exists_congr fun j => and_congr_right fun hj => ?_
      rw [List.mem_append, List.mem_singleton, Event.closed.injEq, or_iff_left]
      rintro rfl
      exact hsame (Option.some.inj (hi.symm.trans hj))

theorem concat (k : Families members publishers h) (hcreated : ∀ r a, Event.created r a ≠ e)
    (hcloned : ∀ i j, Event.cloned i j ≠ e) (hclosed : ∀ i, Event.closed i ≠ e) :
    Families members publishers (h ++ [e]) := by
  have hc : ∀ r a, .created r a ∈ h ++ [e] ↔ .created r a ∈ h := fun r a =>
    mem_concat_of_ne (hcreated r a)
  have hk : ∀ i j, .cloned i j ∈ h ++ [e] ↔ .cloned i j ∈ h := fun i j =>
    mem_concat_of_ne (hcloned i j)
  have hd : ∀ i, .closed i ∈ h ++ [e] ↔ .closed i ∈ h := fun i => mem_concat_of_ne (hclosed i)
  constructor
  case known => simpa only [Member, hc, hk] using k.known
  case closing => simpa only [hd] using k.closing
  case bound => exact k.bound
  case cloned => simpa only [hk] using k.cloned
  case created => simpa only [hc] using k.created
  case founded => simpa only [hc, kin_concat hcloned] using k.founded
  case closed => simpa only [hd] using k.closed

end Families

end EventIntake.Publishing
