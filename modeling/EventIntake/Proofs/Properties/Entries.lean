import EventIntake.Proofs.Lists
import EventIntake.Properties.Basic
import Mathlib.Data.List.Nodup

/-!
# Sets of properties

A set of properties is known by what is read from it (`ext_get?`), and so are the operations on it.
Of the pairs that were written the last one of a key is read (`get?_ofList`), and of two sets the
one that overrides the other (`get?_override`).  Writing first some pairs and then others is
overriding the set of the former by the set of the latter (`ofList_append`).
-/

namespace EventIntake.Properties

variable {p q : Properties} {key value : String}

theorem keys_nodup (p : Properties) : (p.entries.map Prod.fst).Nodup :=
  List.pairwise_map.mpr (p.sorted.imp fun h => String.ne_of_lt h)

theorem get?_eq_some_iff : p.get? key = some value ↔ (key, value) ∈ p.entries :=
  lookup_eq_some_iff_mem p.keys_nodup

/-- **What can be read tells the set.** -/
theorem ext_get? (h : ∀ key, p.get? key = q.get? key) : p = q := by
  have hmem : ∀ e, e ∈ p.entries ↔ e ∈ q.entries := by
    rintro ⟨key, value⟩
    rw [← get?_eq_some_iff, ← get?_eq_some_iff, h]
  have hperm : p.entries.Perm q.entries :=
    (List.perm_ext_iff_of_nodup p.keys_nodup.of_map q.keys_nodup.of_map).mpr hmem
  have hentries : p.entries = q.entries :=
    hperm.eq_of_pairwise (fun a b _ _ hab hba => absurd hba (String.lt_asymm hab)) p.sorted q.sorted
  cases p
  cases q
  cases hentries
  rfl

theorem lookup_reverse (p : Properties) (key : String) :
    p.entries.reverse.lookup key = p.get? key := by
  have hnodup : (p.entries.reverse.map Prod.fst).Nodup := by
    rw [List.map_reverse]
    exact List.nodup_reverse.mpr p.keys_nodup
  refine Option.ext fun value => ?_
  rw [lookup_eq_some_iff_mem hnodup, List.mem_reverse, get?_eq_some_iff]

theorem get?_foldl_insert (pairs : List (String × String)) (p : Properties) (key : String) :
    (pairs.foldl (fun p (key, value) => p.insert key value) p).get? key =
      (pairs.reverse.lookup key).or (p.get? key) := by
  induction pairs generalizing p with
  | nil => rfl
  | cons e rest ih =>
    rw [List.foldl_cons, ih, get?_insert, List.reverse_cons, List.lookup_append, Option.or_assoc]
    refine congrArg _ ?_
    rw [lookup_cons_eq]
    split <;> simp

theorem get?_ofList (pairs : List (String × String)) (key : String) :
    (ofList pairs).get? key = pairs.reverse.lookup key :=
  (get?_foldl_insert pairs empty key).trans (Option.or_none ..)

/-- **A set that overrides another is read first.** -/
theorem get?_override (p q : Properties) (key : String) :
    (p.override q).get? key = (q.get? key).or (p.get? key) := by
  rw [override, get?_foldl_insert, lookup_reverse]

theorem ofList_entries (p : Properties) : ofList p.entries = p :=
  ext_get? fun key => (get?_ofList p.entries key).trans (p.lookup_reverse key)

theorem ofList_append (front rest : List (String × String)) :
    ofList (front ++ rest) = (ofList front).override (ofList rest) := by
  refine ext_get? fun key => ?_
  rw [get?_override, get?_ofList, get?_ofList, get?_ofList, List.reverse_append, List.lookup_append]

theorem mem_of_mem_ofList {pairs : List (String × String)} {e : String × String}
    (h : e ∈ (ofList pairs).entries) : e ∈ pairs := by
  obtain ⟨key, value⟩ := e
  rw [← get?_eq_some_iff, get?_ofList] at h
  exact List.mem_reverse.mp (mem_of_lookup h)

end EventIntake.Properties
