import Mathlib.Data.List.Basic

/-!
# Lists

What the parts of the development share: what stands in a list that one more was added to, and what
is found in a list of pairs by its key.
-/

namespace EventIntake

variable {α β : Type} {l : List α} {x y : α} {i : Nat}

theorem getElem?_concat_cases (hi : (l ++ [x])[i]? = some y) :
    l[i]? = some y ∨ i = l.length ∧ y = x := by
  rcases Nat.lt_trichotomy i l.length with hlt | rfl | hgt
  · rw [List.getElem?_append_left hlt] at hi
    exact .inl hi
  · rw [List.getElem?_concat_length] at hi
    exact .inr ⟨rfl, (Option.some.inj hi).symm⟩
  · have hlt := (List.getElem?_eq_some_iff.mp hi).1
    rw [List.length_append, List.length_singleton] at hlt
    omega

theorem getElem?_append_of_some (hi : l[i]? = some y) (l' : List α) : (l ++ l')[i]? = some y := by
  rw [List.getElem?_append_left (List.getElem?_eq_some_iff.mp hi).1, hi]

variable {pairs : List (String × β)} {key : String} {b : β}

theorem mem_of_lookup (h : pairs.lookup key = some b) : (key, b) ∈ pairs := by
  obtain ⟨before, after, rfl, -⟩ := List.lookup_eq_some_iff.mp h
  simp

/-- Where no key repeats, looking up is finding. -/
theorem lookup_eq_some_iff_mem (hnodup : (pairs.map Prod.fst).Nodup) :
    pairs.lookup key = some b ↔ (key, b) ∈ pairs := by
  refine ⟨mem_of_lookup, fun h => ?_⟩
  obtain ⟨before, after, rfl⟩ := List.append_of_mem h
  refine List.lookup_eq_some_iff.mpr ⟨before, after, rfl, fun other hother => ?_⟩
  simp only [List.map_append, List.map_cons, List.nodup_append, List.mem_cons] at hnodup
  have hne := hnodup.2.2 other.1 (List.mem_map_of_mem hother) key (.inl rfl)
  simpa using hne.symm

/-- Of the pairs that are found in a list the last one with the key decides. -/
theorem lookup_reverse_filterMap {f : α → Option (String × β)} :
    (l.filterMap f).reverse.lookup key = some b ↔ ∃ before x after, l = before ++ x :: after ∧
      f x = some (key, b) ∧ ∀ y ∈ after, ∀ c, f y ≠ some (key, c) := by
  rw [List.lookup_eq_some_iff]
  constructor
  · rintro ⟨later, earlier, hsplit, hlater⟩
    rw [List.reverse_eq_iff, List.reverse_append, List.reverse_cons, List.append_assoc,
      List.singleton_append] at hsplit
    obtain ⟨before, rest, rfl, -, hrest⟩ := List.filterMap_eq_append_iff.mp hsplit
    obtain ⟨skipped, x, after, rfl, -, hx, hafter⟩ := List.filterMap_eq_cons_iff.mp hrest
    refine ⟨before ++ skipped, x, after, by simp, hx, fun y hy c hyc => ?_⟩
    have hmem : (key, c) ∈ later := by
      rw [← List.mem_reverse, ← hafter]
      exact List.mem_filterMap.mpr ⟨y, hy, hyc⟩
    simpa using hlater _ hmem
  · rintro ⟨before, x, after, rfl, hx, hafter⟩
    refine ⟨(after.filterMap f).reverse, (before.filterMap f).reverse, by simp [hx], ?_⟩
    rintro ⟨other, c⟩ hother
    obtain ⟨y, hy, hyc⟩ := List.mem_filterMap.mp (List.mem_reverse.mp hother)
    have hne : key ≠ other := fun heq => hafter y hy c (heq ▸ hyc)
    simpa using hne

end EventIntake
