import EventIntake.Properties.Text
import EventIntake.Proofs.Properties.Entries
import EventIntake.Proofs.Text.Lines

/-!
# Properties as they are written

Reading a text comes to the pairs of its lines (`ofText_eq`), so a text after another one overrides
it.  Of the pairs that a text can give none is lost when it is written and read again: its key is no
comment, has no separator, and has nothing around it that would be trimmed (`IsPlain`).  Sets of
such properties are exactly those that are what is read of their written form
(`written_faithfully`).
-/

namespace EventIntake.Properties

/-! ## One line -/

structure IsPlain (key value : String) : Prop where
  keyTrimmed : Text.IsTrimmed key.toList
  valueTrimmed : Text.IsTrimmed value.toList
  noSeparator : '=' ∉ key.toList ∧ ':' ∉ key.toList
  oneLine : '\n' ∉ key.toList ∧ '\n' ∉ value.toList
  noComment : ∀ c, key.toList.head? = some c → c ≠ '#' ∧ c ≠ '!'

def line (key value : String) : List Char := key.toList ++ '=' :: value.toList

variable {key value : String}

theorem isSeparator_eq_false {c : Char} : isSeparator c = false ↔ c ≠ '=' ∧ c ≠ ':' := by
  simp [isSeparator]

namespace IsPlain

theorem not_isSeparator (h : IsPlain key value) {c : Char} (hc : c ∈ key.toList) :
    isSeparator c = false :=
  isSeparator_eq_false.mpr
    ⟨fun heq => h.noSeparator.1 (heq ▸ hc), fun heq => h.noSeparator.2 (heq ▸ hc)⟩

theorem isComment_line (h : IsPlain key value) : isComment (line key value) = false := by
  have hcomment := h.noComment
  rw [line]
  cases hkey : key.toList with
  | nil => rfl
  | cons c rest =>
    rw [hkey] at hcomment
    simp [isComment, hcomment c rfl]

theorem isTrimmed_line (h : IsPlain key value) : Text.IsTrimmed (line key value) := by
  obtain ⟨hkey, -⟩ := Text.isTrimmed_iff.mp h.keyTrimmed
  obtain ⟨-, hvalue⟩ := Text.isTrimmed_iff.mp h.valueTrimmed
  refine Text.isTrimmed_iff.mpr ⟨fun c hc => ?_, fun c hc => ?_⟩
  · rw [line, List.head?_append] at hc
    rcases Option.or_eq_some_iff.mp hc with hc | ⟨-, hc⟩
    · exact hkey c hc
    · cases hc
      decide
  · rw [line, List.getLast?_append, List.getLast?_cons] at hc
    obtain rfl : value.toList.getLast?.getD '=' = c := by simpa using hc
    cases hlast : value.toList.getLast? with
    | none => decide
    | some c => exact hvalue c hlast

theorem notMem_line (h : IsPlain key value) : '\n' ∉ line key value := by
  simp [line, h.oneLine.1, h.oneLine.2]

/-- **What was written on a line is read off it.** -/
theorem ofLine?_line (h : IsPlain key value) :
    ofLine? (Text.trim (line key value)) = some (key, value) := by
  have hplain : ∀ c ∈ key.toList, (!isSeparator c) = true := by
    intro c hc
    rw [h.not_isSeparator hc, Bool.not_false]
  rw [h.isTrimmed_line, ofLine?, h.isComment_line, if_neg Bool.false_ne_true, line,
    List.takeWhile_append_of_pos hplain, List.dropWhile_append_of_pos hplain]
  have hkey : Text.trim key.toList = key.toList := h.keyTrimmed
  have hvalue : Text.trim value.toList = value.toList := h.valueTrimmed
  simp [isSeparator, hkey, hvalue]

theorem head?_of_takeWhile {cs : List Char} (htrimmed : Text.IsTrimmed cs) {c : Char}
    (hc : (Text.trim (cs.takeWhile fun c => !isSeparator c)).head? = some c) :
    cs.head? = some c := by
  cases cs with
  | nil => cases hc
  | cons first rest =>
    by_cases hfirst : isSeparator first
    · rw [List.takeWhile_cons_of_neg (by simp [hfirst])] at hc
      cases hc
    · have hblank : Text.isBlank first = false := (Text.isTrimmed_iff.mp htrimmed).1 first rfl
      rw [List.takeWhile_cons_of_pos (by simp [hfirst]), Text.trim, Text.trimStart,
        List.dropWhile_cons_of_neg (by simp [hblank])] at hc
      have hhead := Text.head?_of_trimEnd hc
      exact hhead

/-- **What is read off a line can be written on one.** -/
theorem of_ofLine? {cs : List Char} (hline : '\n' ∉ cs)
    (h : ofLine? (Text.trim cs) = some (key, value)) : IsPlain key value := by
  have htrimmed := Text.isTrimmed_trim cs
  have hmem : ∀ c ∈ Text.trim cs, c ∈ cs := fun c hc => (Text.trim_infix cs).subset hc
  generalize Text.trim cs = line at h htrimmed hmem
  rw [ofLine?] at h
  split at h
  · cases h
  · case isFalse hcomment =>
    cases h
    constructor
    case keyTrimmed => rw [String.toList_ofList]; exact Text.isTrimmed_trim _
    case valueTrimmed => rw [String.toList_ofList]; exact Text.isTrimmed_trim _
    case noSeparator =>
      rw [String.toList_ofList]
      have hplain : ∀ c ∈ Text.trim (line.takeWhile fun c => !isSeparator c),
          c ≠ '=' ∧ c ≠ ':' := fun c hc => by
        have htaken := List.mem_takeWhile_imp ((Text.trim_infix _).subset hc)
        exact isSeparator_eq_false.mp (by simpa using htaken)
      exact ⟨fun hc => (hplain _ hc).1 rfl, fun hc => (hplain _ hc).2 rfl⟩
    case oneLine =>
      rw [String.toList_ofList, String.toList_ofList]
      refine ⟨fun hc => hline (hmem _ ?_), fun hc => hline (hmem _ ?_)⟩
      · exact (List.takeWhile_prefix _).subset ((Text.trim_infix _).subset hc)
      · exact (List.dropWhile_suffix _).subset
          ((List.drop_suffix _ _).subset ((Text.trim_infix _).subset hc))
    case noComment =>
      rw [String.toList_ofList]
      intro c hc
      have hhead := head?_of_takeWhile htrimmed hc
      cases line with
      | nil => cases hhead
      | cons first rest =>
        obtain rfl : first = c := by simpa using hhead
        simpa [isComment] using hcomment

end IsPlain

/-! ## Texts -/

def pairs (cs : List Char) : List (String × String) :=
  (Text.splitLines cs).filterMap fun line => ofLine? (Text.trim line)

theorem ofText_eq (text : String) : ofText text = ofList (pairs text.toList) := by
  rw [ofText, pairs, Text.filterMap_lines rfl fun line => by rw [Text.trim_withoutReturn]]

theorem pairs_append (front rest : List Char) :
    pairs (front ++ '\n' :: rest) = pairs front ++ pairs rest := by
  rw [pairs, Text.splitLines_append, List.filterMap_append, ← pairs, ← pairs]

theorem pairs_line (h : IsPlain key value) : pairs (line key value) = [(key, value)] := by
  rw [pairs, Text.splitLines_of_notMem h.notMem_line, List.filterMap_cons]
  simp only [h.ofLine?_line, List.filterMap_nil]

theorem isPlain_of_mem_pairs {cs : List Char} {e : String × String} (h : e ∈ pairs cs) :
    IsPlain e.1 e.2 := by
  obtain ⟨line, hline, he⟩ := List.mem_filterMap.mp h
  exact .of_ofLine? (Text.notMem_of_mem_splitLines hline) he

/-- The text that is written for some entries. -/
theorem toList_render (p : Properties) :
    p.render.toList = p.entries.flatMap fun e => line e.1 e.2 ++ ['\n'] := by
  rw [render, String.toList_join, List.flatMap_map]
  simp [line]

/-- **Each entry that can be written is read again, in its place.** -/
theorem pairs_flatMap {entries : List (String × String)} (h : ∀ e ∈ entries, IsPlain e.1 e.2) :
    pairs (entries.flatMap fun e => line e.1 e.2 ++ ['\n']) = entries := by
  induction entries with
  | nil => rfl
  | cons e rest ih =>
    obtain ⟨hfirst, hrest⟩ := List.forall_mem_cons.mp h
    rw [List.flatMap_cons, List.append_assoc, List.singleton_append, pairs_append,
      pairs_line hfirst, ih hrest, List.singleton_append]

/-- Every property of the set can be written and read again. -/
def IsWritable (p : Properties) : Prop := ∀ e ∈ p.entries, IsPlain e.1 e.2

theorem isWritable_ofText (text : String) : (ofText text).IsWritable := by
  intro e he
  rw [ofText_eq] at he
  exact isPlain_of_mem_pairs (mem_of_mem_ofList he)

theorem ofText_render {p : Properties} (h : p.IsWritable) : ofText p.render = p := by
  rw [ofText_eq, toList_render, pairs_flatMap h, ofList_entries]

/-- What is written and read. -/
structure Faithful (p : Properties) (text before after : String) : Prop where
  /-- What is read of a text is what is read of it once it was written again. -/
  again : ofText (ofText text).render = ofText text
  merged : ofText (before ++ "\n" ++ after) = (ofText before).override (ofText after)
  /-- Of a key that both have the later text counts, and no other key is touched. -/
  winner : ∀ key, (ofText (before ++ "\n" ++ after)).get? key =
    ((ofText after).get? key).or ((ofText before).get? key)
  /-- The sets that survive being written are those of plain properties, and no others. -/
  writable : ofText p.render = p ↔ p.IsWritable

/-- **Properties are read as they were written.** -/
theorem written_faithfully (p : Properties) (text before after : String) :
    p.Faithful text before after := by
  have hmerged : ofText (before ++ "\n" ++ after) = (ofText before).override (ofText after) := by
    rw [ofText_eq, ofText_eq, ofText_eq, ← ofList_append, ← pairs_append]
    simp
  constructor
  case again => exact ofText_render (isWritable_ofText text)
  case merged => exact hmerged
  case winner =>
    intro key
    rw [hmerged, get?_override]
  case writable =>
    constructor
    · intro h
      rw [← h]
      exact isWritable_ofText p.render
    · exact ofText_render

end EventIntake.Properties
