import EventIntake.Proofs.Properties.Written

/-!
# Assignments

A line of a text of properties gives a value to a key: blanks may stand around both, and `=` or `:`
between them, the first of which counts (`Gives`).  A line with neither is a key with an empty
value.  What is read for a key is the value on the last line that gives it one, whatever the other
lines are (`get?_ofText_iff`).
-/

namespace EventIntake.Properties

variable {line front rest : List Char} {sep : Char} {key value text : String}

/-- The line gives `value` to `key`. -/
inductive Gives (line : List Char) (key value : String) : Prop
  | separated {front rest : List Char} {sep : Char} (hline : line = front ++ sep :: rest)
      (hsep : isSeparator sep = true) (hfront : ∀ c ∈ front, isSeparator c = false)
      (hkey : Text.trim front = key.toList) (hvalue : Text.trim rest = value.toList)
      (hcomment : isComment (Text.trim line) = false)
  | bare (hline : ∀ c ∈ line, isSeparator c = false) (hkey : Text.trim line = key.toList)
      (hvalue : value = "") (hcomment : isComment (Text.trim line) = false)

/-- The line is the last one in the text that gives the key a value, and it is this one. -/
def GivesLast (text key value : String) : Prop :=
  ∃ before line after, Text.splitLines text.toList = before ++ line :: after ∧
    Gives line key value ∧ ∀ later ∈ after, ∀ other, ¬ Gives later key other

/-! ## One line -/

theorem isSeparator_of_isBlank {c : Char} (h : Text.isBlank c = true) : isSeparator c = false := by
  rw [isSeparator_eq_false]
  constructor <;>
  · rintro rfl
    exact absurd h (by decide)

def keyPart (line : List Char) : List Char :=
  Text.trim (line.takeWhile fun c => !isSeparator c)

def valuePart (line : List Char) : List Char :=
  Text.trim ((line.dropWhile fun c => !isSeparator c).drop 1)

theorem parts_of_separated (hsep : isSeparator sep = true)
    (hfront : ∀ c ∈ front, isSeparator c = false) (rest : List Char) :
    keyPart (front ++ sep :: rest) = Text.trim front ∧
      valuePart (front ++ sep :: rest) = Text.trim rest := by
  have hplain : ∀ c ∈ front, (!isSeparator c) = true := fun c hc => by simp [hfront c hc]
  rw [keyPart, valuePart, List.takeWhile_append_of_pos hplain, List.dropWhile_append_of_pos hplain]
  simp [hsep]

theorem parts_of_bare (hline : ∀ c ∈ line, isSeparator c = false) :
    keyPart line = Text.trim line ∧ valuePart line = [] := by
  have hplain : ∀ c ∈ line, (!isSeparator c) = true := fun c hc => by simp [hline c hc]
  rw [keyPart, valuePart, List.takeWhile_eq_self_iff.mpr hplain,
    List.dropWhile_eq_nil_iff.mpr hplain]
  exact ⟨rfl, rfl⟩

theorem separated_or_bare (line : List Char) :
    (∃ front sep rest, line = front ++ sep :: rest ∧ isSeparator sep = true ∧
      ∀ c ∈ front, isSeparator c = false) ∨ ∀ c ∈ line, isSeparator c = false := by
  induction line with
  | nil => exact .inr nofun
  | cons c line ih =>
    cases hc : isSeparator c with
    | true => exact .inl ⟨[], c, line, rfl, hc, nofun⟩
    | false =>
      rcases ih with ⟨front, sep, rest, rfl, hsep, hfront⟩ | hline
      · exact .inl ⟨c :: front, sep, rest, rfl, hsep, List.forall_mem_cons.mpr ⟨hc, hfront⟩⟩
      · exact .inr (List.forall_mem_cons.mpr ⟨hc, hline⟩)

/-- Blanks at the ends of a line belong to no part of it. -/
theorem parts_trim (line : List Char) :
    keyPart (Text.trim line) = keyPart line ∧ valuePart (Text.trim line) = valuePart line := by
  obtain ⟨pre, post, hblank, hline⟩ := Text.exists_trim line
  obtain ⟨hpre, hpost⟩ := List.forall_mem_append.mp hblank
  generalize Text.trim line = inner at hline ⊢
  rw [hline]
  rcases separated_or_bare inner with ⟨front, sep, rest, rfl, hsep, hfront⟩ | hinner
  · have hfront' : ∀ c ∈ pre ++ front, isSeparator c = false :=
      List.forall_mem_append.mpr ⟨fun c hc => isSeparator_of_isBlank (hpre c hc), hfront⟩
    have hsame : pre ++ (front ++ sep :: rest) ++ post =
        (pre ++ front) ++ sep :: (rest ++ post) := by simp
    obtain ⟨hkey, hvalue⟩ := parts_of_separated hsep hfront rest
    obtain ⟨hkey', hvalue'⟩ := parts_of_separated hsep hfront' (rest ++ post)
    have hleft : Text.trim (pre ++ front ++ []) = Text.trim front :=
      Text.trim_append_blanks hpre (by simp) front
    have hright : Text.trim ([] ++ rest ++ post) = Text.trim rest :=
      Text.trim_append_blanks (by simp) hpost rest
    rw [List.append_nil] at hleft
    rw [List.nil_append] at hright
    rw [hsame, hkey, hkey', hvalue, hvalue', hleft, hright]
    exact ⟨rfl, rfl⟩
  · have hwhole : ∀ c ∈ pre ++ inner ++ post, isSeparator c = false := by
      refine List.forall_mem_append.mpr ⟨List.forall_mem_append.mpr ⟨?_, hinner⟩, ?_⟩
      · exact fun c hc => isSeparator_of_isBlank (hpre c hc)
      · exact fun c hc => isSeparator_of_isBlank (hpost c hc)
    obtain ⟨hkey, hvalue⟩ := parts_of_bare hinner
    obtain ⟨hkey', hvalue'⟩ := parts_of_bare hwhole
    rw [hkey, hkey', hvalue, hvalue', Text.trim_append_blanks hpre hpost]
    exact ⟨rfl, rfl⟩

theorem ofLine?_trim (line : List Char) : ofLine? (Text.trim line) =
    if isComment (Text.trim line) then none
    else some (String.ofList (keyPart line), String.ofList (valuePart line)) := by
  obtain ⟨hkey, hvalue⟩ := parts_trim line
  rw [← hkey, ← hvalue]
  rfl

/-- **What is read off a line is what it gives.** -/
theorem ofLine?_eq_some_iff :
    ofLine? (Text.trim line) = some (key, value) ↔ Gives line key value := by
  rw [ofLine?_trim]
  constructor
  · intro h
    split at h
    · cases h
    · case isFalse hcomment =>
      have hnot : isComment (Text.trim line) = false := by simpa using hcomment
      cases h
      rcases separated_or_bare line with ⟨front, sep, rest, rfl, hsep, hfront⟩ | hline
      · obtain ⟨hkey, hvalue⟩ := parts_of_separated hsep hfront rest
        exact .separated rfl hsep hfront (by simp [hkey]) (by simp [hvalue]) hnot
      · obtain ⟨hkey, hvalue⟩ := parts_of_bare hline
        exact .bare hline (by simp [hkey]) (by simp [hvalue]) hnot
  · intro h
    cases h with
    | @separated front rest sep hline hsep hfront hkey hvalue hcomment =>
      obtain ⟨hfirst, hsecond⟩ := parts_of_separated hsep hfront rest
      rw [← hline] at hfirst hsecond
      rw [hcomment, hfirst, hsecond, hkey, hvalue]
      simp
    | bare hline hkey hvalue hcomment =>
      obtain ⟨hfirst, hsecond⟩ := parts_of_bare hline
      rw [hcomment, hfirst, hsecond, hkey, hvalue]
      simp

/-! ## Texts -/

/-- **Of the lines that give a key a value the last one is read.** -/
theorem get?_ofText_iff : (ofText text).get? key = some value ↔ GivesLast text key value := by
  rw [ofText_eq, get?_ofList, pairs, lookup_reverse_filterMap]
  simp only [ne_eq, ofLine?_eq_some_iff, GivesLast]

end EventIntake.Properties
