/-!
# Properties

A set of properties gives a text to each of its keys.  The entries stand in the ascending order of
their keys, code point by code point, which is also the order of the keys' encoded bytes.  Reading
sees the last text that was written (`get?_insert`).
-/

namespace EventIntake

structure Properties where
  entries : List (String × String)
  sorted : entries.Pairwise fun a b => a.1 < b.1

namespace Properties

/-- `entries` with `key` set to `value`. -/
def insertInto (key value : String) : List (String × String) → List (String × String)
  | [] => [(key, value)]
  | (k, v) :: rest =>
    if key < k then (key, value) :: (k, v) :: rest
    else if key = k then (key, value) :: rest
    else (k, v) :: insertInto key value rest

theorem mem_insertInto {key value : String} {e : String × String} :
    ∀ {entries : List (String × String)}, e ∈ insertInto key value entries →
      e = (key, value) ∨ e ∈ entries := by
  intro entries
  induction entries with
  | nil => simp [insertInto]
  | cons first rest ih =>
    obtain ⟨k, v⟩ := first
    unfold insertInto
    split
    · simp
    · split
      · intro h
        rcases List.mem_cons.1 h with h | h
        · exact Or.inl h
        · exact Or.inr (List.mem_cons_of_mem _ h)
      · intro h
        rcases List.mem_cons.1 h with h | h
        · exact Or.inr (h ▸ List.mem_cons_self)
        · exact (ih h).imp id (List.mem_cons_of_mem _)

theorem sorted_insertInto (key value : String) : ∀ {entries : List (String × String)},
    entries.Pairwise (fun a b => a.1 < b.1) →
      (insertInto key value entries).Pairwise fun a b => a.1 < b.1 := by
  intro entries
  induction entries with
  | nil => simp [insertInto]
  | cons first rest ih =>
    obtain ⟨k, v⟩ := first
    intro h
    obtain ⟨hFirst, hRest⟩ := List.pairwise_cons.1 h
    unfold insertInto
    split
    · case isTrue hlt =>
      refine List.pairwise_cons.2 ⟨?_, h⟩
      intro e he
      rcases List.mem_cons.1 he with rfl | he
      · exact hlt
      · exact String.lt_trans hlt (hFirst e he)
    · case isFalse hge =>
      split
      · case isTrue heq =>
        subst heq
        exact List.pairwise_cons.2 ⟨hFirst, hRest⟩
      · case isFalse hne =>
        refine List.pairwise_cons.2 ⟨?_, ih hRest⟩
        intro e he
        rcases mem_insertInto he with rfl | he
        · have hle : k ≤ key := String.not_lt.1 hge
          refine String.not_le.1 fun hge' => hne (String.le_antisymm hge' hle)
        · exact hFirst e he

def empty : Properties := ⟨[], .nil⟩

instance : Inhabited Properties := ⟨empty⟩

def insert (p : Properties) (key value : String) : Properties :=
  ⟨insertInto key value p.entries, sorted_insertInto key value p.sorted⟩

def get? (p : Properties) (key : String) : Option String := p.entries.lookup key

/-- Later pairs replace earlier ones of the same key. -/
def ofList (pairs : List (String × String)) : Properties :=
  pairs.foldl (fun p (key, value) => p.insert key value) empty

/-- `p`, overridden by `q`. -/
def override (p q : Properties) : Properties :=
  q.entries.foldl (fun p (key, value) => p.insert key value) p

theorem lookup_cons_eq (key value other : String) (rest : List (String × String)) :
    ((key, value) :: rest).lookup other
      = if other = key then some value else rest.lookup other := by
  by_cases h : other = key
  · simp [h]
  · have hBeq : (other == key) = false := by simpa using h
    simp [List.lookup_cons, hBeq, h]

theorem lookup_insertInto (key value other : String) (entries : List (String × String)) :
    (insertInto key value entries).lookup other
      = if other = key then some value else entries.lookup other := by
  induction entries with
  | nil => exact lookup_cons_eq key value other []
  | cons first rest ih =>
    obtain ⟨k, v⟩ := first
    unfold insertInto
    split
    · exact lookup_cons_eq key value other _
    · split
      · case isTrue heq =>
        subst heq
        simp only [lookup_cons_eq]
        split <;> rfl
      · case isFalse hne =>
        simp only [lookup_cons_eq, ih]
        by_cases h : other = k
        · have hOther : other ≠ key := fun e => hne (e ▸ h)
          rw [if_pos h, if_neg hOther, if_pos h]
        · rw [if_neg h, if_neg h]

/-- Reading a set that has been written to. -/
theorem get?_insert (p : Properties) (key value other : String) :
    (p.insert key value).get? other = if other = key then some value else p.get? other :=
  lookup_insertInto key value other p.entries

end Properties

end EventIntake
