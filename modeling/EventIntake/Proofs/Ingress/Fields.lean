import EventIntake.Ingress.Forwarding
import Mathlib.Data.List.Nodup

/-!
# Which fields of a request go along

A client gives any headers it likes.  What becomes of a field is said by rules (`Passes`): it goes
along with its value as text, or it has another name, or its value is no text.  The rules leave no
choice, and what an event forwards is what they say (`Event.passes_iff`).
-/

namespace EventIntake.Ingress

/-! ## Values that are text -/

/-- A byte that can be shown, or a tab. -/
def IsPrintable (b : UInt8) : Prop := b = 9 ∨ 0x20 ≤ b ∧ b < 0x7F

structure Readable (value : ByteArray) (text : String) : Prop where
  bytes : text.toUTF8 = value
  printable : ∀ b ∈ value.toList, IsPrintable b

section

variable {value : ByteArray} {text text' : String}

theorem Readable.unique (h : Readable value text) (h' : Readable value text') : text = text' :=
  String.toByteArray_inj.mp (h.bytes.trans h'.bytes.symm)

theorem toList_loop_eq (value : ByteArray) (i : Nat) (r : List UInt8) :
    ByteArray.toList.loop value i r = r.reverse ++ value.data.toList.drop i := by
  induction i, r using ByteArray.toList.loop.induct value with
  | case1 i r hlt ih =>
    have hget : value.get! i = value.data.toList.get ⟨i, hlt⟩ := getElem!_pos value.data i hlt
    rw [ByteArray.toList.loop, if_pos hlt, ih, hget, List.reverse_cons, List.append_assoc,
      List.singleton_append, List.get_eq_getElem, List.getElem_cons_drop]
  | case2 i r hge =>
    rw [ByteArray.toList.loop, if_neg hge, List.drop_of_length_le, List.append_nil]
    exact Nat.not_lt.mp hge

theorem toByteArray_toList (value : ByteArray) : value.toList.toByteArray = value := by
  apply ByteArray.ext
  apply Array.toList_inj.mp
  rw [List.toList_data_toByteArray, ByteArray.toList, toList_loop_eq]
  rfl

theorem utf8EncodeChar_ofNat {b : UInt8} (hb : b < 0x7F) :
    String.utf8EncodeChar (Char.ofNat b.toNat) = [b] := by
  have hlt : b.toNat < 0x7F := hb
  have hvalid : b.toNat.isValidChar := Or.inl (by omega)
  have hval : (Char.ofNat b.toNat).val.toNat = b.toNat := by
    rw [Char.ofNat, dif_pos hvalid]
    rfl
  rw [String.utf8EncodeChar]
  simp only [hval, if_pos (show b.toNat ≤ 0x7f by omega), UInt8.ofNat_toNat]

theorem exists_readable (h : ∀ b ∈ value.toList, IsPrintable b) : ∃ text, Readable value text := by
  have hbyte : ∀ b ∈ value.toList, String.utf8EncodeChar (Char.ofNat b.toNat) = [b] := by
    intro b hb
    apply utf8EncodeChar_ofNat
    rcases h b hb with rfl | ⟨-, hlt⟩
    · decide
    · exact hlt
  refine ⟨String.ofList (value.toList.map fun b => Char.ofNat b.toNat), ?_, h⟩
  rw [String.toUTF8, String.toByteArray_ofList, List.utf8Encode, List.flatMap_map,
    List.flatMap_congr hbyte, List.flatMap_singleton', toByteArray_toList]

theorem all_printable_iff : (value.toList.all fun b => (0x20 ≤ b && b < 0x7F) || b == 9) = true ↔
    ∀ b ∈ value.toList, IsPrintable b := by
  simp only [List.all_eq_true, IsPrintable, Bool.or_eq_true, Bool.and_eq_true, decide_eq_true_eq,
    beq_iff_eq, or_comm]

theorem readable?_eq_some : readable? value = some text ↔ Readable value text := by
  rw [readable?]
  constructor
  · intro h
    split at h
    · case isTrue hall =>
      refine ⟨?_, all_printable_iff.mp hall⟩
      rw [String.fromUTF8?] at h
      split at h
      · obtain rfl := Option.some.inj h
        rfl
      · cases h
    · cases h
  · rintro ⟨rfl, hall⟩
    rw [if_pos (all_printable_iff.mpr hall), String.fromUTF8?]
    exact dif_pos text.isValidUTF8

theorem readable?_eq_none : readable? value = none ↔ ∃ b ∈ value.toList, ¬ IsPrintable b := by
  constructor
  · intro h
    by_contra hnone
    push Not at hnone
    obtain ⟨text, htext⟩ := exists_readable hnone
    cases h.symm.trans (readable?_eq_some.mpr htext)
  · rintro ⟨b, hb, hnot⟩
    rw [readable?, if_neg]
    exact fun hall => hnot (all_printable_iff.mp hall b hb)

end

/-! ## Fields that go along -/

def GoesAlong (name : String) : Prop := name = "content-type" ∨ ∃ rest, name = "ce-" ++ rest

theorem startsWith_iff {start name : String} :
    name.startsWith start = true ↔ ∃ rest, name = start ++ rest := by
  rw [String.startsWith_string_iff]
  constructor
  · rintro ⟨l, hl⟩
    refine ⟨String.ofList l, String.toList_inj.mp ?_⟩
    rw [String.toList_append, String.toList_ofList, hl]
  · rintro ⟨rest, rfl⟩
    exact ⟨rest.toList, (String.toList_append ..).symm⟩

theorem isForwarded_iff {name : String} : isForwarded name = true ↔ GoesAlong name := by
  rw [isForwarded, Bool.or_eq_true, startsWith_iff, beq_iff_eq, or_comm]
  rfl

/-- What goes along of some fields, in their order and as often as they come. -/
inductive Passes : List (String × ByteArray) → List (String × String) → Prop
  | nil : Passes [] []
  | along {name : String} {value : ByteArray} {text : String} {fields : List (String × ByteArray)}
      {out : List (String × String)} :
      GoesAlong name → Readable value text → Passes fields out →
        Passes ((name, value) :: fields) ((name, text) :: out)
  | other {name : String} {value : ByteArray} {fields : List (String × ByteArray)}
      {out : List (String × String)} :
      ¬ GoesAlong name → Passes fields out → Passes ((name, value) :: fields) out
  | unreadable {name : String} {value : ByteArray} {fields : List (String × ByteArray)}
      {out : List (String × String)} :
      (∃ b ∈ value.toList, ¬ IsPrintable b) → Passes fields out →
        Passes ((name, value) :: fields) out

theorem Passes.unique {fields : List (String × ByteArray)} {out out' : List (String × String)}
    (h : Passes fields out) (h' : Passes fields out') : out = out' := by
  induction h generalizing out' with
  | nil =>
    cases h'
    rfl
  | along hname hvalue _ ih =>
    cases h' with
    | along _ hvalue' h' => rw [hvalue.unique hvalue', ih h']
    | other hname' _ => exact absurd hname hname'
    | unreadable hvalue' _ =>
      obtain ⟨b, hb, hnot⟩ := hvalue'
      exact absurd (hvalue.printable b hb) hnot
  | other hname _ ih =>
    cases h' with
    | along hname' _ _ => exact absurd hname' hname
    | other _ h' => exact ih h'
    | unreadable _ h' => exact ih h'
  | unreadable hvalue _ ih =>
    cases h' with
    | along _ hvalue' _ =>
      obtain ⟨b, hb, hnot⟩ := hvalue
      exact absurd (hvalue'.printable b hb) hnot
    | other _ h' => exact ih h'
    | unreadable _ h' => exact ih h'

namespace Event

theorem passes_forwarded (e : Event) : Passes e.fields e.forwarded := by
  obtain ⟨ns, name, fields, body⟩ := e
  show Passes fields ((fields.filter fun f => isForwarded f.1).filterMap fun f =>
    (readable? f.2).map (f.1, ·))
  induction fields with
  | nil => exact .nil
  | cons field rest ih =>
    obtain ⟨name, value⟩ := field
    rw [List.filter_cons]
    by_cases hname : isForwarded name = true
    · simp only [hname, if_true, List.filterMap_cons]
      cases hvalue : readable? value with
      | none => exact .unreadable (readable?_eq_none.mp hvalue) ih
      | some text => exact .along (isForwarded_iff.mp hname) (readable?_eq_some.mp hvalue) ih
    · simp only [hname]
      exact .other (fun hgoes => hname (isForwarded_iff.mpr hgoes)) ih

/-- **What an event forwards of its fields is what the rules say.** -/
theorem passes_iff (e : Event) (out : List (String × String)) :
    Passes e.fields out ↔ out = e.forwarded := by
  constructor
  · exact fun h => h.unique e.passes_forwarded
  · rintro rfl
    exact e.passes_forwarded

end Event

/-! ## The fields of a request -/

/-- The values that come under a name, in their order. -/
def valuesOf (name : String) (fields : List (String × ByteArray)) : List ByteArray :=
  (fields.filter fun f => f.1 == name).map Prod.snd

/-- Fields one by one, of which the values of a name were together. -/
def spread (grouped : List (String × List ByteArray)) : List (String × ByteArray) :=
  grouped.flatMap fun (name, values) => values.map (name, ·)

theorem valuesOf_spread_cons (name other : String) (values : List ByteArray)
    (rest : List (String × List ByteArray)) : valuesOf name (spread ((other, values) :: rest)) =
      (if other = name then values else []) ++ valuesOf name (spread rest) := by
  have hgroup : valuesOf name (values.map (other, ·)) = if other = name then values else [] := by
    rw [valuesOf, List.filter_map, List.map_map]
    split
    · case isTrue h => simp [Function.comp_def, h]
    · case isFalse h => simp [Function.comp_def, h]
  rw [← hgroup, spread, List.flatMap_cons, valuesOf, List.filter_append, List.map_append]
  rfl

theorem valuesOf_spread_of_not_mem {name : String} {grouped : List (String × List ByteArray)}
    (h : name ∉ grouped.map Prod.fst) : valuesOf name (spread grouped) = [] := by
  induction grouped with
  | nil => rfl
  | cons group rest ih =>
    obtain ⟨other, values⟩ := group
    rw [List.map_cons, List.mem_cons, not_or] at h
    rw [valuesOf_spread_cons, if_neg (Ne.symm h.1), ih h.2, List.append_nil]

theorem names_addField (name : String) (value : ByteArray)
    (grouped : List (String × List ByteArray)) : (addField name value grouped).map Prod.fst =
      if name ∈ grouped.map Prod.fst then grouped.map Prod.fst
      else grouped.map Prod.fst ++ [name] := by
  induction grouped with
  | nil => rfl
  | cons group rest ih =>
    obtain ⟨other, values⟩ := group
    rw [addField]
    by_cases h : other = name
    · simp [h]
    · have hne : name ≠ other := Ne.symm h
      rw [if_neg h, List.map_cons, ih]
      by_cases hmem : name ∈ rest.map Prod.fst
      · simp [hmem]
      · simp [hmem, hne]

theorem nodup_addField {grouped : List (String × List ByteArray)}
    (h : (grouped.map Prod.fst).Nodup) (name : String) (value : ByteArray) :
    ((addField name value grouped).map Prod.fst).Nodup := by
  rw [names_addField]
  split
  · exact h
  · case isFalse hnew =>
    rw [← List.concat_eq_append]
    exact List.Nodup.concat hnew h

theorem valuesOf_addField {grouped : List (String × List ByteArray)}
    (h : (grouped.map Prod.fst).Nodup) (name added : String) (value : ByteArray) :
    valuesOf name (spread (addField added value grouped)) =
      valuesOf name (spread grouped) ++ if added = name then [value] else [] := by
  induction grouped with
  | nil =>
    rw [addField, valuesOf_spread_cons]
    exact List.append_nil _
  | cons group rest ih =>
    obtain ⟨other, values⟩ := group
    obtain ⟨hother, hrest⟩ := List.nodup_cons.mp h
    rw [addField]
    by_cases hadded : other = added
    · subst hadded
      rw [if_pos rfl, valuesOf_spread_cons, valuesOf_spread_cons]
      by_cases hname : other = name
      · subst hname
        simp [valuesOf_spread_of_not_mem hother]
      · simp [hname]
    · rw [if_neg hadded, valuesOf_spread_cons, valuesOf_spread_cons, ih hrest, List.append_assoc]

/-- **The fields hold under each name the values that were given for it, in their order.** -/
theorem Request.valuesOf_fields (r : Request) (name : String) : valuesOf name r.fields =
    (r.headers.filter fun h => lowerCase h.1 == name).map Prod.snd := by
  have hfold : ∀ (headers : List (String × ByteArray)) (grouped : List (String × List ByteArray)),
      (grouped.map Prod.fst).Nodup →
        valuesOf name (spread (headers.foldl
          (fun grouped header => addField (lowerCase header.1) header.2 grouped) grouped)) =
          valuesOf name (spread grouped) ++
            (headers.filter fun h => lowerCase h.1 == name).map Prod.snd := by
    intro headers
    induction headers with
    | nil => exact fun grouped _ => (List.append_nil _).symm
    | cons header rest ih =>
      intro grouped hnodup
      obtain ⟨given, value⟩ := header
      rw [List.foldl_cons, ih _ (nodup_addField hnodup _ _), valuesOf_addField hnodup,
        List.append_assoc, List.filter_cons]
      by_cases hname : lowerCase given = name
      · simp [hname]
      · simp [hname]
  exact hfold r.headers [] List.nodup_nil

end EventIntake.Ingress
