import EventIntake.Number.Integer

/-!
# What reads as a natural number

A text writes a natural number when it is made of decimal digits, at least one, with a plus sign
before them or none (`Writes`).  Reading takes the digits from the front and gives up as soon as the
number is too large; since further digits make no number smaller (`le_foldl_digits`), what it
reads is what is written (`nat?_eq_ok`).  A signed integer of 64 bits that is not below zero is
written in the same way, or as zero with a minus sign (`int64?_eq_some_iff`).
-/

namespace EventIntake.Number

variable {limit n m : Nat} {cs : List Char}

/-- The text writes a number up to the limit. -/
def Writes (limit : Nat) (cs : List Char) (n : Nat) : Prop :=
  ∃ digits, (cs = digits ∨ cs = '+' :: digits) ∧ digits ≠ [] ∧ (∀ c ∈ digits, c.isDigit = true) ∧
    ofDigits digits = n ∧ n ≤ limit

theorem le_foldl_digits (n : Nat) (cs : List Char) :
    n ≤ cs.foldl (fun n c => 10 * n + digitValue c) n := by
  induction cs generalizing n with
  | nil => exact Nat.le_refl n
  | cons c cs ih =>
    have hstep : n ≤ 10 * n + digitValue c := by omega
    exact Nat.le_trans hstep (ih _)

theorem natFrom_eq_ok (hn : n ≤ limit) :
    natFrom limit n cs = .ok m ↔ (∀ c ∈ cs, c.isDigit = true) ∧
      cs.foldl (fun n c => 10 * n + digitValue c) n = m ∧ m ≤ limit := by
  induction cs generalizing n with
  | nil =>
    rw [natFrom, Except.ok.injEq]
    refine ⟨?_, fun h => h.2.1⟩
    rintro rfl
    exact ⟨nofun, rfl, hn⟩
  | cons c cs ih =>
    rw [natFrom, List.forall_mem_cons, List.foldl_cons]
    split
    · case isTrue hc =>
      split
      · case isTrue hle => rw [ih hle, and_iff_right hc]
      · case isFalse hle =>
        refine ⟨nofun, fun ⟨_, hfold, hm⟩ => ?_⟩
        exact absurd (Nat.le_trans (le_foldl_digits _ cs) (hfold ▸ hm)) hle
    · case isFalse hc => exact ⟨nofun, fun h => absurd h.1.1 hc⟩

theorem natFrom_zero_eq_ok :
    natFrom limit 0 cs = .ok n ↔ (∀ c ∈ cs, c.isDigit = true) ∧ ofDigits cs = n ∧ n ≤ limit :=
  natFrom_eq_ok (Nat.zero_le limit)

theorem nat?_of_unsigned (hne : cs ≠ []) (hplus : cs.head? ≠ some '+') :
    nat? limit cs = natFrom limit 0 cs := by
  rw [nat?.eq_def]
  split
  · exact absurd rfl hne
  · exact absurd rfl hplus
  · exact absurd rfl hplus
  · rfl

theorem nat?_of_signed (hne : cs ≠ []) : nat? limit ('+' :: cs) = natFrom limit 0 cs :=
  nat?.eq_3 _ _ hne

/-- **What is read is what is written.** -/
theorem nat?_eq_ok : nat? limit cs = .ok n ↔ Writes limit cs n := by
  constructor
  · intro h
    rw [nat?.eq_def] at h
    split at h
    · cases h
    · cases h
    · case h_3 rest hrest =>
      exact ⟨rest, .inr rfl, fun hnil => hrest (hnil ▸ rfl), natFrom_zero_eq_ok.mp h⟩
    · case h_4 hnil _ _ => exact ⟨cs, .inl rfl, hnil, natFrom_zero_eq_ok.mp h⟩
  · rintro ⟨digits, rfl | rfl, hne, hdigits, hvalue⟩
    · have hplus : cs.head? ≠ some '+' := by
        intro hhead
        exact absurd (hdigits _ (List.mem_of_head? hhead)) (by decide)
      rw [nat?_of_unsigned hne hplus]
      exact natFrom_zero_eq_ok.mpr ⟨hdigits, hvalue⟩
    · rw [nat?_of_signed hne]
      exact natFrom_zero_eq_ok.mpr ⟨hdigits, hvalue⟩

/-! ## What is written -/

theorem Writes.mono {limit' : Nat} (h : Writes limit cs n) (hn : n ≤ limit') :
    Writes limit' cs n := by
  obtain ⟨digits, hcs, hne, hdigits, hvalue, -⟩ := h
  exact ⟨digits, hcs, hne, hdigits, hvalue, hn⟩

theorem Writes.unique {limit' : Nat} (h : Writes limit cs n) (h' : Writes limit' cs m) : n = m := by
  have hn := nat?_eq_ok.mpr (h.mono (Nat.le_max_left n m))
  have hm := nat?_eq_ok.mpr (h'.mono (Nat.le_max_right n m))
  rw [hn] at hm
  exact Except.ok.inj hm

theorem Writes.of_plus (h : Writes limit ('+' :: cs) n) : Writes limit cs n := by
  obtain ⟨digits, heq | heq, hne, hdigits, hvalue⟩ := h
  · exact absurd (hdigits '+' (heq ▸ List.mem_cons_self)) (by decide)
  · exact ⟨digits, .inl (List.cons.inj heq).2, hne, hdigits, hvalue⟩

theorem writes_toString (n : Nat) : Writes n (toString n).toList n := by
  have htext : (toString n).toList = Nat.toDigits 10 n := Nat.toList_repr
  rw [htext]
  refine ⟨_, .inl rfl, Nat.toDigits_ne_nil, ?_, ?_, Nat.le_refl n⟩
  · exact fun c hc => Nat.isDigit_of_mem_toDigits (by decide) (by decide) hc
  · have hvalue := Nat.ofDigitChars_toDigits (n := n) (b := 10) (by decide) (by decide)
    rwa [Nat.ofDigitChars_eq_foldl] at hvalue

/-! ## Signed integers -/

def int64Max : Nat := 0x7FFFFFFFFFFFFFFF

/-- The text writes a natural number as a signed integer of 64 bits: one that is not too large, or
zero with a minus sign. -/
def WritesSigned (cs : List Char) (n : Nat) : Prop :=
  Writes int64Max cs n ∨ n = 0 ∧ ∃ digits, cs = '-' :: digits ∧ Writes 0 ('+' :: digits) 0

theorem not_writes_minus (rest : List Char) : ¬ Writes limit ('-' :: rest) n := by
  rintro ⟨digits, heq | heq, -, hdigits, -⟩
  · exact absurd (hdigits '-' (heq ▸ List.mem_cons_self)) (by decide)
  · cases heq

/-- **What is read as a signed integer, and is none below zero, is what is written.** -/
theorem int64?_eq_some_iff : int64? cs = some (n : Int) ↔ WritesSigned cs n := by
  rw [int64?.eq_def, WritesSigned]
  split
  · case h_1 rest =>
    rw [or_iff_right (not_writes_minus rest)]
    cases hread : nat? 0x8000000000000000 ('+' :: rest) with
    | ok m =>
      have hwrites := nat?_eq_ok.mp hread
      constructor
      · intro h
        obtain ⟨rfl, rfl⟩ : m = 0 ∧ n = 0 := by
          have hvalue : -(m : Int) = n := Option.some.inj h
          omega
        exact ⟨rfl, rest, rfl, hwrites.mono (Nat.le_refl 0)⟩
      · rintro ⟨rfl, digits, hdigits, hzero⟩
        obtain rfl : rest = digits := (List.cons.inj hdigits).2
        obtain rfl : m = 0 := hwrites.unique hzero
        rfl
    | error e =>
      refine ⟨nofun, fun ⟨_, digits, hdigits, hzero⟩ => ?_⟩
      obtain rfl : rest = digits := (List.cons.inj hdigits).2
      rw [nat?_eq_ok.mpr (hzero.mono (Nat.zero_le _))] at hread
      cases hread
  · case h_2 hminus =>
    have hright : ¬ (n = 0 ∧ ∃ digits, cs = '-' :: digits ∧ Writes 0 ('+' :: digits) 0) :=
      fun ⟨_, digits, hcs, _⟩ => hminus digits hcs
    rw [or_iff_left hright, ← nat?_eq_ok, int64Max]
    cases nat? 0x7FFFFFFFFFFFFFFF cs with
    | ok m => rw [Option.some.injEq, Except.ok.injEq, Int.natCast_inj]
    | error e => simp

end EventIntake.Number
