import EventIntake.Proofs.Lists
import EventIntake.Proofs.Settings.Items
import Mathlib.Data.List.Induction
import Mathlib.Data.List.Nodup

/-!
# Sections item by item

A section is read entry by entry, and every entry sets one field.  So the last value under a key is
what its item comes to, an item without a value keeps its default (`get_eq_given`), and a document
is taken when all that it has for items is of their kinds (`isSome_read_iff_fits`).
-/

namespace EventIntake.Settings

open Toml (Value)

variable {σ β : Type} {fields : List (Field σ)} {name : String} {look : σ → β}
  {read : FieldReader β}

/-! ## Entries -/

theorem entry_concat (key k : String) (entries : List (String × Value)) (v : Value) :
    entry key (entries ++ [(k, v)]) = if key = k then some v else entry key entries := by
  rw [entry, List.reverse_append, List.reverse_singleton, List.singleton_append, List.lookup_cons]
  by_cases h : key = k
  · rw [if_pos h, beq_iff_eq.mpr h]
  · rw [if_neg h, beq_eq_false_iff_ne.mpr h, entry]

/-! ## One section -/

theorem readSection_concat (fields : List (Field σ)) (s : σ) (entries : List (String × Value))
    (key : String) (v : Value) :
    readSection fields s (.table (entries ++ [(key, v)])) =
      (readSection fields s (.table entries)).bind fun t =>
        match fields.lookup key with
        | some set => set t v
        | none => some t := by
  simp only [readSection, List.foldlM_append, List.foldlM_cons, List.foldlM_nil, bind_pure]
  rfl

/-- The field called `name` is the one that is looked at. -/
structure Shows (fields : List (Field σ)) (name : String) (look : σ → β)
    (read : FieldReader β) : Prop where
  known : name ∈ fields.map Prod.fst
  sets : ∀ f ∈ fields, f.1 = name → ∀ s v, (f.2 s v).map look = read v
  leaves : ∀ f ∈ fields, f.1 ≠ name → ∀ s v, (f.2 s v).map look = (f.2 s v).map fun _ => look s

/-- After a table was read, the field is what its last value says. -/
theorem Shows.of_table (h : Shows fields name look read) {s t : σ}
    {entries : List (String × Value)} (ht : readSection fields s (.table entries) = some t) :
    (entry name entries).elim (some (look s)) read = some (look t) := by
  induction entries using List.reverseRecOn generalizing t with
  | nil =>
    cases ht
    rfl
  | append_singleton entries e ih =>
    obtain ⟨key, v⟩ := e
    rw [readSection_concat] at ht
    obtain ⟨u, hu, ht⟩ := Option.bind_eq_some_iff.mp ht
    rw [entry_concat]
    split at ht
    · case _ set hset =>
      have hmem := mem_of_lookup hset
      split
      · case isTrue hname =>
        have hsets := h.sets _ hmem hname.symm u v
        simp only [ht, Option.map_some] at hsets
        rw [Option.elim_some, ← hsets]
      · case isFalse hname =>
        have hkeeps := h.leaves _ hmem (Ne.symm hname) u v
        simp only [ht, Option.map_some] at hkeeps
        rw [ih hu, hkeeps]
    · case _ hnone =>
      cases ht
      have hname : name ≠ key := by
        rintro rfl
        obtain ⟨f, hf, hname⟩ := List.mem_map.mp h.known
        simpa [hname] using List.lookup_eq_none_iff.mp hnone f hf
      rw [if_neg hname, ih hu]

/-- A table is a section when each of its entries is, as far as the section knows it. -/
theorem isSome_readSection_table (takes : String → Value → Prop)
    (h : ∀ f ∈ fields, ∀ s v, (f.2 s v).isSome ↔ takes f.1 v) (s : σ)
    (entries : List (String × Value)) :
    (readSection fields s (.table entries)).isSome ↔
      ∀ e ∈ entries, e.1 ∈ fields.map Prod.fst → takes e.1 e.2 := by
  induction entries using List.reverseRecOn with
  | nil => simp [readSection]
  | append_singleton entries e ih =>
    obtain ⟨key, v⟩ := e
    simp only [List.mem_append, List.mem_singleton, or_imp, forall_and, forall_eq, ← ih]
    rw [readSection_concat]
    cases hu : readSection fields s (.table entries) with
    | none => simp
    | some u =>
      rw [Option.bind_some]
      split
      · case _ set hset =>
        have hmem := mem_of_lookup hset
        simpa [List.mem_map_of_mem hmem] using h _ hmem u v
      · case _ hnone =>
        have hnot : key ∉ fields.map Prod.fst := by
          rw [List.mem_map]
          rintro ⟨f, hf, rfl⟩
          simpa using List.lookup_eq_none_iff.mp hnone f hf
        simp [hnot]

/-- An array is read as the table of its values under the names of the fields. -/
theorem readSection_array (hnodup : (fields.map Prod.fst).Nodup) (s : σ) (values : List Value) :
    readSection fields s (.array values) =
      readSection fields s (.table ((fields.map Prod.fst).zip values)) := by
  have hall : ∀ rest : List (Field σ), (∀ f ∈ rest, f ∈ fields) → ∀ s values,
      readSection rest s (.array values) =
        readSection fields s (.table ((rest.map Prod.fst).zip values)) := by
    intro rest
    induction rest with
    | nil => intros; rfl
    | cons f rest ih =>
      intro hrest s values
      cases values with
      | nil => rfl
      | cons v values =>
        simp only [readSection, List.map_cons, List.zip_cons_cons, List.foldlM_cons,
          (lookup_eq_some_iff_mem hnodup).mpr (hrest f List.mem_cons_self)]
        exact congrArg _ (funext fun t => ih (fun g hg => hrest g (List.mem_cons_of_mem f hg)) t _)
  exact hall fields (fun f hf => hf) s values

/-! ## The sections and the items -/

theorem Section.fields_names (k : Section) : k.fields.map Prod.fst = k.items.map Item.key := by
  cases k <;> rfl

theorem Section.keys_nodup (k : Section) : (k.items.map Item.key).Nodup := by
  cases k <;> decide

theorem Section.read_eq (k : Section) (v : Value) :
    k.read v = (k.entries? v).bind fun found => readSection k.fields (k.get {}) (.table found) := by
  have hnodup := k.fields_names ▸ k.keys_nodup
  cases v with
  | array values =>
    rw [Section.read, readSection_array hnodup, k.fields_names]
    rfl
  | _ => rfl

theorem map_field_of_holds {γ : Type} {name : String} {raw : FieldReader γ} {set : σ → γ → σ}
    {wrap : γ → β} (h : ∀ s b, look (set s b) = wrap b) (s : σ) (v : Value) :
    ((field name raw set).2 s v).map look = (raw v).map wrap := by
  rw [field, Option.map_map]
  exact congrArg (Option.map · (raw v)) (funext (h s))

theorem map_field_of_same {name : String} {raw : FieldReader β} {set : σ → β → σ}
    (h : ∀ s b, look (set s b) = b) (s : σ) (v : Value) :
    ((field name raw set).2 s v).map look = raw v :=
  (map_field_of_holds h s v).trans Option.map_id'

theorem map_field_of_apart {γ : Type} {name : String} {raw : FieldReader γ} {set : σ → γ → σ}
    (h : ∀ s b, look (set s b) = look s) (s : σ) (v : Value) :
    ((field name raw set).2 s v).map look = ((field name raw set).2 s v).map fun _ => look s := by
  rw [field, Option.map_map, Option.map_map]
  exact congrArg (Option.map · (raw v)) (funext (h s))

theorem Section.name_injective : Function.Injective Section.name := by
  intro j k h
  cases j <;> cases k <;> first | rfl | exact absurd h (by decide)

theorem Section.shows (k : Section) : Shows sections k.name k.get k.read := by
  constructor
  case known => cases k <;> decide
  case sets =>
    cases k
    all_goals repeat' first
      | refine List.forall_mem_cons.mpr ⟨?_, ?_⟩
      | exact List.forall_mem_nil _
      | exact fun h => absurd h (by decide)
      | exact fun _ => map_field_of_same fun _ _ => rfl
  case leaves =>
    cases k
    all_goals repeat' first
      | refine List.forall_mem_cons.mpr ⟨?_, ?_⟩
      | exact List.forall_mem_nil _
      | exact fun _ => map_field_of_apart fun _ _ => rfl
      | exact fun h => (h rfl).elim

theorem Item.shows (i : Item) : Shows i.home.fields i.key i.look i.read := by
  constructor
  case known => cases i <;> decide
  case sets =>
    cases i
    all_goals repeat' first
      | refine List.forall_mem_cons.mpr ⟨?_, ?_⟩
      | exact List.forall_mem_nil _
      | exact fun h => absurd h (by decide)
      | exact fun _ => map_field_of_same fun _ _ => rfl
      | exact fun _ => map_field_of_holds fun _ _ => rfl
  case leaves =>
    cases i
    all_goals repeat' first
      | refine List.forall_mem_cons.mpr ⟨?_, ?_⟩
      | exact List.forall_mem_nil _
      | exact fun _ => map_field_of_apart fun _ _ => rfl
      | exact fun h => (h rfl).elim

/-- **A document that is taken says item by item what the settings are.** -/
theorem get_eq_given {entries : List (String × Value)} {s : Settings}
    (h : readSection sections {} (.table entries) = some s) (i : Item) :
    i.get s = (i.given entries).getD (i.get {}) := by
  have hsection := i.home.shows.of_table h
  rw [Item.given]
  cases hv : entry i.home.name entries with
  | none =>
    rw [hv] at hsection
    exact (congrArg i.look (Option.some.inj hsection)).symm
  | some v =>
    rw [hv, Option.elim_some, Section.read_eq] at hsection
    obtain ⟨found, hfound, htable⟩ := Option.bind_eq_some_iff.mp hsection
    have hitem := i.shows.of_table htable
    rw [Option.bind_some, hfound, Option.bind_some]
    cases hw : entry i.key found with
    | none =>
      rw [hw] at hitem
      exact (Option.some.inj hitem).symm
    | some w =>
      rw [hw, Option.elim_some] at hitem
      rw [Option.bind_some, hitem]
      rfl

theorem Section.isSome_read_iff (k : Section) (v : Value) :
    (k.read v).isSome ↔ ∃ found, k.entries? v = some found ∧
      ∀ (i : Item) w, i.home = k → (i.key, w) ∈ found → (i.read w).isSome := by
  rw [k.read_eq]
  cases hfound : k.entries? v with
  | none => simp
  | some found =>
    let takes key w := ∀ i : Item, i.home = k → i.key = key → (i.read w).isSome
    have htakes : ∀ f ∈ k.fields, ∀ s w, (f.2 s w).isSome ↔ takes f.1 w := by
      intro f hf s w
      have hname : f.1 ∈ k.items.map Item.key := k.fields_names ▸ List.mem_map_of_mem hf
      obtain ⟨i, hi, hkey⟩ := List.mem_map.mp hname
      obtain rfl := Section.home_of_mem_items hi
      have hitem : (f.2 s w).isSome ↔ (i.read w).isSome := by
        rw [← i.shows.sets f hf hkey.symm s w, Option.isSome_map]
      rw [hitem]
      refine ⟨fun h j hj hjkey => ?_, fun h => h i rfl hkey⟩
      have hsame := List.inj_on_of_nodup_map i.home.keys_nodup hi
        (hj ▸ j.home_mem_items) (hkey.trans hjkey.symm)
      exact hsame ▸ h
    rw [Option.bind_some, isSome_readSection_table takes htakes, k.fields_names]
    constructor
    · intro h
      refine ⟨found, rfl, ?_⟩
      rintro i w rfl hw
      exact h _ hw (List.mem_map_of_mem i.home_mem_items) i rfl rfl
    · rintro ⟨_, ⟨⟩, h⟩ e he _ i hi hkey
      exact h i e.2 hi (hkey ▸ he)

/-- **A document is taken when its sections are sections and their items are of their kinds.** -/
theorem isSome_read_iff_fits (entries : List (String × Value)) :
    (readSection sections {} (.table entries)).isSome ↔ Fits entries := by
  have hnames : sections.map Prod.fst = Section.all.map Section.name := rfl
  let takes name v := ∀ k : Section, k.name = name → (k.read v).isSome
  have htakes : ∀ f ∈ sections, ∀ s v, (f.2 s v).isSome ↔ takes f.1 v := by
    intro f hf s v
    obtain ⟨k, -, hname⟩ := List.mem_map.mp (hnames ▸ List.mem_map_of_mem hf : f.1 ∈ _)
    have hsection : (f.2 s v).isSome ↔ (k.read v).isSome := by
      rw [← k.shows.sets f hf hname.symm s v, Option.isSome_map]
    rw [hsection]
    exact ⟨fun h j hj => Section.name_injective (hname.trans hj.symm) ▸ h, fun h => h k hname⟩
  rw [isSome_readSection_table takes htakes]
  constructor
  · intro h k v hv
    exact (k.isSome_read_iff v).mp (h _ hv k.shows.known k rfl)
  · intro h e he _ k hk
    exact (k.isSome_read_iff e.2).mpr (h k e.2 (hk ▸ he))

end EventIntake.Settings
