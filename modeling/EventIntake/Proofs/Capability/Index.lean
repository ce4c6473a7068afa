import EventIntake.Capability.Refresh
import Mathlib.Data.Finset.Card

/-!
# What an index tells of its list

An index that was made from a list holds, of the items with one key, the last one (`mem_latest`),
and so all that is looked up in it is decided by the keys.  A key tells a namespace and a name apart
from all others as long as no slash hides in them (`Plain.keyOfPair_inj`).  For items that are told
apart the index is one of pairs: of the items with one namespace and one name it holds the last, and
no item takes the place of another (`Cache.update_represents`).  Two pairs can share a key, though,
and then the later item displaces the other (`slash_displaces`).
-/

namespace EventIntake.Capability

/-- What an event type is known by. -/
def EventType.pair (e : EventType) : String × String := (e.namespace, e.name)

def keyOfPair (p : String × String) : String := keyOf p.1 p.2

/-- `e` stands in the list, and no later item is like it in `f`. -/
def IsLast {β : Type} (f : EventType → β) (items : List EventType) (e : EventType) : Prop :=
  ∃ pre post, items = pre ++ e :: post ∧ ∀ later ∈ post, f later ≠ f e

/-- Items that share a key share their namespace and their name. -/
def Apart (items : List EventType) : Prop :=
  ∀ a ∈ items, ∀ b ∈ items, a.key = b.key → a.pair = b.pair

theorem key_eq (e : EventType) : e.key = keyOfPair e.pair := rfl

variable {items : List EventType} {e : EventType}

/-! ## The last item of a key -/

theorem IsLast.mem {β : Type} {f : EventType → β} (h : IsLast f items e) : e ∈ items := by
  obtain ⟨pre, post, rfl, -⟩ := h
  exact List.mem_append_right pre List.mem_cons_self

theorem isLast_cons {β : Type} {f : EventType → β} {first : EventType} {rest : List EventType} :
    IsLast f (first :: rest) e ↔
      IsLast f rest e ∨ e = first ∧ ∀ later ∈ rest, f later ≠ f first := by
  constructor
  · rintro ⟨pre, post, hsplit, hlast⟩
    cases pre with
    | nil =>
      obtain ⟨rfl, rfl⟩ := List.cons.inj hsplit
      exact Or.inr ⟨rfl, hlast⟩
    | cons head pre =>
      obtain ⟨-, hrest⟩ := List.cons.inj hsplit
      exact Or.inl ⟨pre, post, hrest, hlast⟩
  · rintro (⟨pre, post, rfl, hlast⟩ | ⟨rfl, hlast⟩)
    · exact ⟨first :: pre, post, rfl, hlast⟩
    · exact ⟨[], rest, rfl, hlast⟩

theorem any_latest (items : List EventType) (k : String) :
    ((latest items).any fun other => other.key == k) = items.any fun other => other.key == k := by
  induction items with
  | nil => rfl
  | cons first rest ih =>
    rw [latest, List.any_cons]
    split
    · case isTrue hthere =>
      rw [ih]
      by_cases hk : first.key = k
      · rw [hk, ih] at hthere
        rw [hthere, Bool.or_true]
      · rw [beq_false_of_ne hk, Bool.false_or]
    · rw [List.any_cons, ih]

/-- **An item is kept when no later one has its key.** -/
theorem mem_latest : e ∈ latest items ↔ IsLast EventType.key items e := by
  induction items with
  | nil =>
    constructor
    · intro h
      cases h
    · intro h
      cases h.mem
  | cons first rest ih =>
    have hkey : (rest.any fun other => other.key == first.key) = true ↔
        ¬ ∀ later ∈ rest, later.key ≠ first.key := by
      simp
    rw [isLast_cons, ← ih, latest]
    simp only [any_latest, hkey]
    split
    · case isTrue hthere => simp [hthere]
    · case isFalse hnew =>
      rw [not_not] at hnew
      rw [List.mem_cons, or_comm]
      exact or_congr_right ⟨fun he => ⟨he, hnew⟩, fun he => he.1⟩

/-- **Of the items with a key a look-up finds the last.** -/
theorem find?_latest (items : List EventType) (k : String) :
    ((latest items).find? fun e => e.key == k) =
      (items.filter fun e => e.key == k).getLast? := by
  induction items with
  | nil => rfl
  | cons first rest ih =>
    by_cases hk : first.key = k
    · rw [List.filter_cons_of_pos (by simpa using hk), List.getLast?_cons, ← ih, latest]
      simp only [hk]
      cases hfound : (latest rest).find? fun e => e.key == k with
      | some other =>
        -- a later item has the key, so the first one is neither kept nor last
        have hthere : ((latest rest).any fun other => other.key == k) = true :=
          List.any_eq_true.mpr ⟨other, List.mem_of_find?_eq_some hfound,
            by simpa using List.find?_some hfound⟩
        rw [if_pos hthere, hfound, Option.getD_some]
      | none =>
        have hnew : ¬ ((latest rest).any fun other => other.key == k) = true := by
          intro hthere
          obtain ⟨other, hother, hkey⟩ := List.any_eq_true.mp hthere
          exact List.find?_eq_none.mp hfound other hother hkey
        rw [if_neg hnew, List.find?_cons_of_pos (by simpa using hk), Option.getD_none]
    · rw [List.filter_cons_of_neg (by simpa using hk), ← ih, latest]
      split
      · rfl
      · rw [List.find?_cons_of_neg (by simpa using hk)]

theorem length_latest (items : List EventType) :
    (latest items).length = (items.map EventType.key).toFinset.card := by
  have hsame : ((latest items).map EventType.key).toFinset =
      (items.map EventType.key).toFinset := by
    ext k
    have hany := Bool.eq_iff_iff.mp (any_latest items k)
    simpa using hany
  have hnodup : ((latest items).map EventType.key).Nodup :=
    List.pairwise_map.mpr (pairwise_latest items)
  rw [← hsame, List.toFinset_card_of_nodup hnodup, List.length_map]

/-! ## Keys without a slash inside -/

/-- Where two lists are cut at the first `a` they agree before it and behind it. -/
theorem append_cons_inj_of_notMem {α : Type} {a : α} {l l' r r' : List α} (h : a ∉ l)
    (h' : a ∉ l') (heq : l ++ a :: r = l' ++ a :: r') : l = l' ∧ r = r' := by
  induction l generalizing l' with
  | nil =>
    cases l' with
    | nil => exact ⟨rfl, (List.cons.inj heq).2⟩
    | cons b l' => exact absurd (List.cons.inj heq).1 fun hab => h' (hab ▸ List.mem_cons_self)
  | cons b l ih =>
    cases l' with
    | nil => exact absurd (List.cons.inj heq).1 fun hba => h (hba ▸ List.mem_cons_self)
    | cons c l' =>
      obtain ⟨rfl, hrest⟩ := List.cons.inj heq
      obtain ⟨rfl, rfl⟩ := ih (fun hl => h (List.mem_cons_of_mem _ hl))
        (fun hl => h' (List.mem_cons_of_mem _ hl)) hrest
      exact ⟨rfl, rfl⟩

theorem toList_keyOf (ns name : String) :
    (keyOf ns name).toList = ns.toList ++ '/' :: name.toList := by
  rw [keyOf, String.toList_append, String.toList_append, List.append_assoc]
  rfl

/-- No slash hides in the namespace of any of these pairs, or none in a name. -/
def Plain (pairs : List (String × String)) : Prop :=
  (∀ p ∈ pairs, '/' ∉ p.1.toList) ∨ ∀ p ∈ pairs, '/' ∉ p.2.toList

/-- **A key without a slash inside of its parts tells them.** -/
theorem Plain.keyOfPair_inj {pairs : List (String × String)} (h : Plain pairs)
    {p q : String × String} (hp : p ∈ pairs) (hq : q ∈ pairs) (hkey : keyOfPair p = keyOfPair q) :
    p = q := by
  have hlist := congrArg String.toList hkey
  rw [keyOfPair, keyOfPair, toList_keyOf, toList_keyOf] at hlist
  rcases h with h | h
  · obtain ⟨hfirst, hsecond⟩ := append_cons_inj_of_notMem (h p hp) (h q hq) hlist
    exact Prod.ext (String.toList_injective hfirst) (String.toList_injective hsecond)
  · -- read from behind, the first slash is the one between the parts
    have hreverse := congrArg List.reverse hlist
    simp only [List.reverse_append, List.reverse_cons, List.append_assoc,
      List.singleton_append] at hreverse
    obtain ⟨hsecond, hfirst⟩ := append_cons_inj_of_notMem
      (by rw [List.mem_reverse]; exact h p hp) (by rw [List.mem_reverse]; exact h q hq) hreverse
    exact Prod.ext (String.toList_injective (List.reverse_inj.mp hfirst))
      (String.toList_injective (List.reverse_inj.mp hsecond))

/-! ## Items that are told apart -/

theorem Apart.isLast_iff (h : Apart items) :
    IsLast EventType.key items e ↔ IsLast EventType.pair items e := by
  have hiff : ∀ {pre post : List EventType}, items = pre ++ e :: post → ∀ later ∈ post,
      (later.key ≠ e.key ↔ later.pair ≠ e.pair) := by
    intro pre post hsplit later hlater
    have hmem : later ∈ items := by
      rw [hsplit]
      exact List.mem_append_right pre (List.mem_cons_of_mem e hlater)
    have he : e ∈ items := by
      rw [hsplit]
      exact List.mem_append_right pre List.mem_cons_self
    apply not_congr
    constructor
    · exact h later hmem e he
    · intro hpair
      rw [key_eq, key_eq, hpair]
  apply exists_congr
  intro pre
  apply exists_congr
  intro post
  apply and_congr_right
  intro hsplit
  exact forall₂_congr (hiff hsplit)

theorem card_keys_iff (items : List EventType) :
    (items.map EventType.key).toFinset.card = (items.map EventType.pair).toFinset.card ↔
      Apart items := by
  have himage : (items.map EventType.key).toFinset =
      (items.map EventType.pair).toFinset.image keyOfPair := by
    ext k
    simp [key_eq]
  rw [himage, Finset.card_image_iff]
  constructor
  · intro hinj a ha b hb hkey
    exact hinj (by simpa using ⟨a, ha, rfl⟩) (by simpa using ⟨b, hb, rfl⟩) hkey
  · intro hapart p hp q hq hkey
    simp only [List.coe_toFinset, List.mem_map, Set.mem_ofPred_eq] at hp hq
    obtain ⟨a, ha, rfl⟩ := hp
    obtain ⟨b, hb, rfl⟩ := hq
    exact hapart a ha b hb hkey

/-! ## The index of a list -/

/-- What can be looked up in an index of a list. -/
structure Represents (items : List EventType) (x : EventIndex) : Prop where
  get : ∀ ns name, x.get? ns name =
    (items.filter fun e => e.key == keyOf ns name).getLast?
  size : x.size = (items.map EventType.key).toFinset.card
  findType : ∀ ns type, (x.findType? ns type).isSome ↔
    ∃ e, IsLast EventType.key items e ∧ e.namespace = ns ∧ e.type = type
  found : ∀ ns type e, x.findType? ns type = some e →
    e ∈ items ∧ e.namespace = ns ∧ e.type = type
  /-- Where no item of another pair has the key, it is the last item of that pair that is found. -/
  getPair : ∀ ns name,
    (∀ e ∈ items, e.key = keyOf ns name → e.pair = (ns, name)) →
      x.get? ns name =
        (items.filter fun e => e.namespace = ns ∧ e.name = name).getLast?
  sizePair : x.size = (items.map EventType.pair).toFinset.card ↔ Apart items
  findTypePair : Apart items → ∀ ns type, (x.findType? ns type).isSome ↔
    ∃ e, IsLast EventType.pair items e ∧ e.namespace = ns ∧ e.type = type
  /-- No item is displaced then but by a later one of its namespace and name. -/
  keptPair : Apart items → ∀ e, e ∈ x.entries ↔ IsLast EventType.pair items e
  plain : ∀ ns name, Plain ((ns, name) :: items.map EventType.pair) →
    Apart items ∧ ∀ e ∈ items, e.key = keyOf ns name → e.pair = (ns, name)

theorem findType?_isSome (items : List EventType) (ns type : String) :
    ((EventIndex.ofList items).findType? ns type).isSome ↔
      ∃ e, IsLast EventType.key items e ∧ e.namespace = ns ∧ e.type = type := by
  rw [EventIndex.findType?, List.find?_isSome]
  simp only [EventIndex.ofList, mem_latest, Bool.and_eq_true, beq_iff_eq]

theorem get?_of_apart {items : List EventType} {ns name : String}
    (h : ∀ e ∈ items, e.key = keyOf ns name → e.pair = (ns, name)) :
    (EventIndex.ofList items).get? ns name =
      (items.filter fun e => e.namespace = ns ∧ e.name = name).getLast? := by
  rw [EventIndex.get?, EventIndex.ofList, find?_latest]
  congr 1
  apply List.filter_congr
  intro e he
  rw [Bool.eq_iff_iff, beq_iff_eq, decide_eq_true_iff]
  constructor
  · intro hkey
    exact Prod.mk.inj (h e he hkey)
  · rintro ⟨rfl, rfl⟩
    rfl

/-- **An index that has replaced another represents the list that it was made from**, whatever was
in it before. -/
theorem Cache.update_represents (c : Cache) (items : List EventType) :
    Represents items (c.update (.ok items)).index := by
  show Represents items (EventIndex.ofList items)
  constructor
  case get => exact fun ns name => find?_latest items (keyOf ns name)
  case size => exact length_latest items
  case findType => exact findType?_isSome items
  case found =>
    intro ns type e h
    have hmem : e ∈ latest items := List.mem_of_find?_eq_some h
    have hfits := List.find?_some h
    simp only [Bool.and_eq_true, beq_iff_eq] at hfits
    exact ⟨mem_of_mem_latest hmem, hfits⟩
  case getPair => exact fun ns name h => get?_of_apart h
  case sizePair =>
    rw [← card_keys_iff, ← length_latest]
    rfl
  case findTypePair =>
    intro h ns type
    rw [findType?_isSome]
    simp only [h.isLast_iff]
  case keptPair => exact fun h e => mem_latest.trans h.isLast_iff
  case plain =>
    intro ns name h
    have hmem : ∀ e ∈ items, e.pair ∈ (ns, name) :: items.map EventType.pair :=
      fun e he => List.mem_cons_of_mem _ (List.mem_map_of_mem he)
    constructor
    · intro a ha b hb hkey
      exact h.keyOfPair_inj (hmem a ha) (hmem b hb) hkey
    · intro e he hkey
      exact h.keyOfPair_inj (hmem e he) List.mem_cons_self hkey

/-- Two pairs with a slash inside can share a key: the later item displaces the other, and is found
in its place. -/
theorem slash_displaces :
    let first : EventType := ⟨"a/b", "c", "dev.one"⟩
    let second : EventType := ⟨"a", "b/c", "dev.two"⟩
    let index := EventIndex.ofList [first, second]
    first.pair ≠ second.pair ∧ index.get? "a/b" "c" = some second ∧ index.size = 1 ∧
      index.findType? "a/b" "dev.one" = none := by
  decide

end EventIntake.Capability
