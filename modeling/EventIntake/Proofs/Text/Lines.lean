import EventIntake.Text.Blank
import Mathlib.Data.List.DropRight

/-!
# Trimmed texts and lines

A text is trimmed when neither its first nor its last character is blank (`isTrimmed_iff`), and
trimming makes it so (`isTrimmed_trim`).  The lines of two texts with a line feed between them are
those of the one and then those of the other (`splitLines_append`).

What is read off each line after it was trimmed does not see how the line ended, so it can as well
be read off the pieces between line feeds (`filterMap_lines`).
-/

namespace EventIntake.Text

variable {cs : List Char}

/-! ## Trimming -/

def IsTrimmed (cs : List Char) : Prop := trim cs = cs

theorem trimEnd_isPrefix (cs : List Char) : trimEnd cs <+: cs :=
  List.rdropWhile_prefix isBlank cs

theorem trim_infix (cs : List Char) : trim cs <:+: cs :=
  (trimEnd_isPrefix (trimStart cs)).isInfix.trans (List.dropWhile_suffix isBlank).isInfix

theorem head?_of_trimEnd {c : Char} (h : (trimEnd cs).head? = some c) : cs.head? = some c := by
  obtain ⟨rest, hrest⟩ := trimEnd_isPrefix cs
  rw [← hrest, List.head?_append, h, Option.some_or]

theorem isBlank_head_trim {c : Char} (h : (trim cs).head? = some c) : isBlank c = false := by
  have hhead : (trimStart cs).head? = some c := head?_of_trimEnd h
  have hnot := List.head?_dropWhile_not isBlank cs
  rwa [← trimStart, hhead] at hnot

theorem isBlank_last_trim {c : Char} (h : (trim cs).getLast? = some c) : isBlank c = false := by
  have hnot := List.head?_dropWhile_not isBlank (trimStart cs).reverse
  rw [trim, trimEnd, List.getLast?_reverse] at h
  rwa [h] at hnot

/-- **A text is trimmed when neither its first nor its last character is blank.** -/
theorem isTrimmed_iff : IsTrimmed cs ↔ (∀ c, cs.head? = some c → isBlank c = false) ∧
    ∀ c, cs.getLast? = some c → isBlank c = false := by
  constructor
  · intro h
    exact ⟨fun c hc => isBlank_head_trim (h.symm ▸ hc), fun c hc => isBlank_last_trim (h.symm ▸ hc)⟩
  · rintro ⟨hhead, hlast⟩
    have hstart : trimStart cs = cs := by
      cases cs with
      | nil => rfl
      | cons c rest => exact List.dropWhile_cons_of_neg (by simp [hhead c rfl])
    rw [IsTrimmed, trim, hstart]
    refine List.rdropWhile_eq_self_iff.mpr fun hne hblank => ?_
    rw [hlast _ (List.getLast?_eq_some_getLast hne)] at hblank
    cases hblank

theorem isTrimmed_trim (cs : List Char) : IsTrimmed (trim cs) :=
  isTrimmed_iff.mpr ⟨fun _ => isBlank_head_trim, fun _ => isBlank_last_trim⟩

theorem trim_eq_nil_iff : trim cs = [] ↔ ∀ c ∈ cs, isBlank c = true := by
  have hend : trim cs = [] ↔ ∀ c ∈ trimStart cs, isBlank c = true := List.rdropWhile_eq_nil_iff
  have hstart : trimStart cs = [] ↔ ∀ c ∈ cs, isBlank c = true := List.dropWhile_eq_nil_iff
  rw [hend, ← hstart]
  cases hrest : trimStart cs with
  | nil => simp
  | cons c rest =>
    have hhead := List.head?_dropWhile_not isBlank cs
    rw [← trimStart, hrest] at hhead
    simp only [List.head?_cons] at hhead
    simp [hhead]

theorem trim_concat {c : Char} (hc : isBlank c = true) (cs : List Char) :
    trim (cs ++ [c]) = trim cs := by
  rw [trim, trim, trimStart, trimStart, List.dropWhile_append]
  split
  · case isTrue hempty =>
    rw [List.isEmpty_iff.mp hempty, List.dropWhile_cons_of_pos hc, List.dropWhile_nil]
  · exact (List.rdropWhile_concat isBlank _ c).trans (if_pos hc)

theorem trim_append_blanks {pre post : List Char} (hpre : ∀ c ∈ pre, isBlank c = true)
    (hpost : ∀ c ∈ post, isBlank c = true) (cs : List Char) :
    trim (pre ++ cs ++ post) = trim cs := by
  have hend : trim (pre ++ cs ++ post) = trim (pre ++ cs) := by
    induction post using List.reverseRecOn with
    | nil => rw [List.append_nil]
    | append_singleton post c ih =>
      obtain ⟨hpost, hc⟩ := List.forall_mem_append.mp hpost
      rw [← List.append_assoc, trim_concat (hc c List.mem_cons_self), ih hpost]
  rw [hend, trim, trimStart, List.dropWhile_append_of_pos hpre, trim, trimStart]

/-- What trimming takes off a text is blank. -/
theorem exists_trim (cs : List Char) : ∃ pre post, (∀ c ∈ pre ++ post, isBlank c = true) ∧
    cs = pre ++ trim cs ++ post := by
  refine ⟨cs.takeWhile isBlank, (trimStart cs).rtakeWhile isBlank, ?_, ?_⟩
  · refine List.forall_mem_append.mpr ⟨fun c hc => List.mem_takeWhile_imp hc, fun c hc => ?_⟩
    exact List.mem_rtakeWhile_imp hc
  · have hend : trim cs ++ (trimStart cs).rtakeWhile isBlank = trimStart cs :=
      List.rdropWhile_append_rtakeWhile
    rw [List.append_assoc, hend]
    exact List.takeWhile_append_dropWhile.symm

/-- The two texts differ in nothing but the blanks at their ends. -/
def SameInside (cs ds : List Char) : Prop :=
  ∃ core pre post pre' post', (∀ c ∈ pre ++ post, isBlank c = true) ∧
    (∀ c ∈ pre' ++ post', isBlank c = true) ∧ cs = pre ++ core ++ post ∧ ds = pre' ++ core ++ post'

/-- **Trimming keeps of a text what is inside, and no more.** -/
theorem sameInside_iff {ds : List Char} : SameInside cs ds ↔ trim cs = trim ds := by
  constructor
  · rintro ⟨core, pre, post, pre', post', hblank, hblank', rfl, rfl⟩
    obtain ⟨hpre, hpost⟩ := List.forall_mem_append.mp hblank
    obtain ⟨hpre', hpost'⟩ := List.forall_mem_append.mp hblank'
    rw [trim_append_blanks hpre hpost, trim_append_blanks hpre' hpost']
  · intro h
    obtain ⟨pre, post, hblank, hcs⟩ := exists_trim cs
    obtain ⟨pre', post', hblank', hds⟩ := exists_trim ds
    exact ⟨trim cs, pre, post, pre', post', hblank, hblank', hcs, h ▸ hds⟩

theorem trim_withoutReturn (line : List Char) : trim (withoutReturn line) = trim line := by
  rw [withoutReturn]
  split
  · case isTrue hlast =>
    obtain ⟨front, rfl⟩ := List.getLast?_eq_some_iff.mp hlast
    rw [List.dropLast_concat, trim_concat (by decide)]
  · rfl

/-! ## Lines -/

theorem splitLines_ne_nil (cs : List Char) : splitLines cs ≠ [] := by
  cases cs with
  | nil => simp [splitLines]
  | cons c rest =>
    rw [splitLines]
    split
    · simp
    · split <;> simp

theorem splitLines_append (front rest : List Char) :
    splitLines (front ++ '\n' :: rest) = splitLines front ++ splitLines rest := by
  induction front with
  | nil => simp [splitLines]
  | cons c front ih =>
    rw [List.cons_append, splitLines, splitLines, ih]
    split
    · rfl
    · cases hlines : splitLines front with
      | nil => exact absurd hlines (splitLines_ne_nil front)
      | cons line more => rfl

theorem splitLines_of_notMem (h : '\n' ∉ cs) : splitLines cs = [cs] := by
  induction cs with
  | nil => rfl
  | cons c rest ih =>
    have hc : c ≠ '\n' := fun hc => h (hc ▸ List.mem_cons_self)
    rw [splitLines, if_neg hc, ih fun hrest => h (List.mem_cons_of_mem _ hrest)]

theorem notMem_of_mem_splitLines {line : List Char} (h : line ∈ splitLines cs) : '\n' ∉ line := by
  induction cs generalizing line with
  | nil =>
    rw [List.mem_singleton.mp h]
    exact List.not_mem_nil
  | cons c rest ih =>
    rw [splitLines] at h
    split at h
    · rcases List.mem_cons.mp h with rfl | h
      · exact List.not_mem_nil
      · exact ih h
    · case isFalse hc =>
      split at h
      · case h_1 hnil => exact absurd hnil (splitLines_ne_nil rest)
      · case h_2 first more hlines =>
        rw [hlines] at ih
        rcases List.mem_cons.mp h with rfl | h
        · rw [List.mem_cons, not_or]
          exact ⟨Ne.symm hc, ih List.mem_cons_self⟩
        · exact ih (List.mem_cons_of_mem _ h)

/-- **How a line ended is not seen by what sees neither an empty line nor a carriage return.** -/
theorem filterMap_lines {β : Type} {f : List Char → Option β} (hnil : f [] = none)
    (hreturn : ∀ line, f (withoutReturn line) = f line) (cs : List Char) :
    (lines cs).filterMap f = (splitLines cs).filterMap f := by
  have hcomplete : ∀ pieces : List (List Char),
      (pieces.map withoutReturn).filterMap f = pieces.filterMap f := by
    intro pieces
    rw [List.filterMap_map]
    exact congrArg (List.filterMap · pieces) (funext hreturn)
  rcases List.eq_nil_or_concat (splitLines cs) with hpieces | ⟨front, tail, hpieces⟩
  · exact absurd hpieces (splitLines_ne_nil cs)
  · rw [List.concat_eq_append] at hpieces
    rw [lines, hpieces, List.dropLast_concat, List.getLast?_concat, List.filterMap_append]
    cases tail with
    | nil => simp [hcomplete, hnil]
    | cons c rest => simp [hcomplete]

end EventIntake.Text
