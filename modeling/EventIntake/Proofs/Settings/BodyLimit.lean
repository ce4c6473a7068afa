import EventIntake.Proofs.Number.Naturals
import EventIntake.Proofs.Properties.Assignments
import EventIntake.Settings.Options
import Mathlib.Control.Monad.Basic

/-!
# The bound on the body of a request

The option file bounds the body of a request by the last line that gives `maxBodySize` a value.  The
value counts where it reads as a signed integer of 64 bits that is not below zero, and is then taken
as it is written (`ofFile_bounds`).  A larger number is read as a floating point number, and that is
no bound: from `2 ^ 63` on it is as if the file gave none (`large_bound_dropped`).
-/

namespace EventIntake

/-! ## One value -/

/-- **A typed value is a natural number where it is written as one in 64 bits with a sign.** -/
theorem TypedValue.nat?_ofText {raw : String} {n : Nat} :
    (TypedValue.ofText raw).nat? = some n ↔ Number.WritesSigned raw.toList n := by
  rw [← Number.int64?_eq_some_iff, TypedValue.ofText]
  split
  · case isTrue h =>
    rw [h, show Number.int64? "true".toList = none by decide]
    simp [TypedValue.nat?]
  · split
    · case isTrue h =>
      rw [h, show Number.int64? "false".toList = none by decide]
      simp [TypedValue.nat?]
    · split
      · case h_1 m hread =>
        rw [hread, Option.some.injEq]
        cases m with
        | ofNat m =>
          rw [TypedValue.nat?, Option.some.injEq]
          exact Int.natCast_inj.symm
        | negSucc m => simp [TypedValue.nat?]
      · case h_2 hread =>
        rw [hread]
        split <;> simp [TypedValue.nat?]

theorem Properties.lookup_typed (p : Properties) (key : String) :
    p.typed.lookup key = (p.get? key).map TypedValue.ofText := by
  rw [typed, get?]
  induction p.entries with
  | nil => rfl
  | cons e rest ih =>
    rw [List.map_cons, List.lookup_cons, List.lookup_cons, ih]
    split <;> rfl

namespace ListenerOptions

/-! ## The bound -/

/-- The bound that the body of a request is given by a text of options. -/
structure Bounds (text : String) (bound : Option Nat) : Prop where
  /-- It is what the last assignment writes, as far as signed integers of 64 bits go. -/
  exact : ∀ n, bound = some n ↔ ∃ raw,
    Properties.GivesLast text "maxBodySize" raw ∧ Number.WritesSigned raw.toList n
  /-- A natural number up to the largest of them is the bound. -/
  natural : ∀ raw n, Properties.GivesLast text "maxBodySize" raw → Number.Writes n raw.toList n →
    n ≤ Number.int64Max → bound = some n
  /-- One beyond it leaves the body without a bound, like any value that is none. -/
  excess : ∀ raw n, Properties.GivesLast text "maxBodySize" raw → Number.Writes n raw.toList n →
    Number.int64Max < n → bound = none
  negative : ∀ raw digits n, Properties.GivesLast text "maxBodySize" raw →
    raw.toList = '-' :: digits → Number.Writes n digits n → 0 < n → bound = none
  other : ∀ raw, Properties.GivesLast text "maxBodySize" raw →
    (∀ n, ¬ Number.WritesSigned raw.toList n) → bound = none
  truth : ∀ b : Bool, Properties.GivesLast text "maxBodySize" (toString b) → bound = none
  unassigned : (∀ line ∈ Text.splitLines text.toList, ∀ raw,
    ¬ Properties.Gives line "maxBodySize" raw) → bound = none

theorem not_writesSigned_of_excess {cs : List Char} {n : Nat} (h : Number.Writes n cs n)
    (hn : Number.int64Max < n) (m : Nat) : ¬ Number.WritesSigned cs m := by
  rintro (hm | ⟨rfl, digits, rfl, -⟩)
  · obtain rfl : n = m := h.unique hm
    obtain ⟨-, -, -, -, -, hle⟩ := hm
    omega
  · exact Number.not_writes_minus digits h

theorem not_writesSigned_of_negative {digits : List Char} {n : Nat} (h : Number.Writes n digits n)
    (hn : 0 < n) (m : Nat) : ¬ Number.WritesSigned ('-' :: digits) m := by
  rintro (hm | ⟨-, digits', heq, hzero⟩)
  · exact Number.not_writes_minus digits hm
  · obtain rfl : digits = digits' := (List.cons.inj heq).2
    obtain rfl : n = 0 := h.unique hzero.of_plus
    exact Nat.lt_irrefl 0 hn

theorem bounds_ofText (text : String) :
    Bounds text (((Properties.ofText text).typed.lookup "maxBodySize").bind TypedValue.nat?) := by
  have hbound : ∀ {raw}, Properties.GivesLast text "maxBodySize" raw →
      ((Properties.ofText text).typed.lookup "maxBodySize").bind TypedValue.nat? =
        (TypedValue.ofText raw).nat? := by
    intro raw hlast
    rw [Properties.lookup_typed, Properties.get?_ofText_iff.mpr hlast]
    rfl
  have hother : ∀ {raw}, Properties.GivesLast text "maxBodySize" raw →
      (∀ n, ¬ Number.WritesSigned raw.toList n) →
      ((Properties.ofText text).typed.lookup "maxBodySize").bind TypedValue.nat? = none := by
    intro raw hlast hnone
    rw [hbound hlast]
    exact Option.eq_none_iff_forall_ne_some.mpr fun n hn => hnone n (TypedValue.nat?_ofText.mp hn)
  constructor
  case exact =>
    intro n
    constructor
    · intro h
      obtain ⟨value, hlookup, hvalue⟩ := Option.bind_eq_some_iff.mp h
      rw [Properties.lookup_typed] at hlookup
      obtain ⟨raw, hraw, rfl⟩ := Option.map_eq_some_iff.mp hlookup
      exact ⟨raw, Properties.get?_ofText_iff.mp hraw, TypedValue.nat?_ofText.mp hvalue⟩
    · rintro ⟨raw, hlast, hwrites⟩
      rw [hbound hlast]
      exact TypedValue.nat?_ofText.mpr hwrites
  case natural =>
    intro raw n hlast hwrites hn
    rw [hbound hlast]
    exact TypedValue.nat?_ofText.mpr (.inl (hwrites.mono hn))
  case excess =>
    intro raw n hlast hwrites hn
    exact hother hlast (not_writesSigned_of_excess hwrites hn)
  case negative =>
    intro raw digits n hlast hraw hwrites hn
    refine hother hlast ?_
    rw [hraw]
    exact not_writesSigned_of_negative hwrites hn
  case other => exact fun raw hlast hnone => hother hlast hnone
  case truth =>
    intro b hlast
    rw [hbound hlast]
    cases b <;> rfl
  case unassigned =>
    intro hnone
    have hget : (Properties.ofText text).get? "maxBodySize" = none := by
      refine Option.eq_none_iff_forall_ne_some.mpr fun raw hraw => ?_
      obtain ⟨before, line, after, hlines, hgives, -⟩ := Properties.get?_ofText_iff.mp hraw
      exact hnone line (by simp [hlines]) raw hgives
    rw [Properties.lookup_typed, hget]
    rfl

/-- **The option file bounds the body by the last number it gives**, as far as signed integers of 64
bits go. -/
theorem ofFile_bounds {files : Files.Tree} {path text : String}
    (h : files.readText path = .ok text) (host : String) (port : Nat) :
    ∃ o, ofFile files path host port = .ok o ∧ o.host = host ∧ o.port = port ∧
      Bounds text o.maxBodySize := by
  refine ⟨⟨host, port, (Properties.ofText text).typed⟩, ?_, rfl, rfl, bounds_ofText text⟩
  rw [ofFile, Properties.ofFile, h]
  rfl

theorem ofFile_bounds_mebibyte :
    let text := "# limits\n maxBodySize : 12\nmaxBodySize =\t1048576\r\nidleTimeout=30"
    let files : Files.Tree := ⟨[(["options"], .file text.toUTF8)]⟩
    files.readText "options" = .ok text ∧ ∃ o, ofFile files "options" "127.0.0.1" 8080 = .ok o ∧
      o.maxBodySize = some 1048576 := by
  intro text files
  have hread : files.readText "options" = .ok text := by decide +kernel
  obtain ⟨o, hfile, -, -, hbounds⟩ := ofFile_bounds hread "127.0.0.1" 8080
  have hlast : Properties.GivesLast text "maxBodySize" (toString 1048576) :=
    Properties.get?_ofText_iff.mp (by decide +kernel)
  exact ⟨hread, o, hfile,
    hbounds.natural _ _ hlast (Number.writes_toString 1048576) (by decide)⟩

/-- The least number that is too large: the file gives it, and the body has no bound. -/
theorem large_bound_dropped :
    let text := "maxBodySize=9223372036854775808\n"
    let files : Files.Tree := ⟨[(["options"], .file text.toUTF8)]⟩
    Properties.GivesLast text "maxBodySize" (toString (Number.int64Max + 1)) ∧
      (ofFile files "options" "127.0.0.1" 8080).toOption.map maxBodySize = some none := by
  intro text files
  exact ⟨Properties.get?_ofText_iff.mp (by decide +kernel), by decide +kernel⟩

end ListenerOptions

end EventIntake
