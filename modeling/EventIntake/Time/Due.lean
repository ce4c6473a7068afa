/-!
# Instants at which something is due

An instant that has passed is no longer waited for.  Of two instants the earlier one comes first,
and something that is never due comes last.
-/

namespace EventIntake

/-- `due`, if it is still to come. -/
def after (now due : Nat) : Option Nat := if now < due then some due else none

def earlier : Option Nat → Option Nat → Option Nat
  | some a, some b => some (min a b)
  | some a, none => some a
  | none, b => b

theorem earlier_eq_none_iff {a b : Option Nat} : earlier a b = none ↔ a = none ∧ b = none := by
  cases a <;> cases b <;> simp [earlier]

theorem lt_of_after_eq_some {now due t : Nat} (h : after now due = some t) : now < t := by
  unfold after at h
  split at h
  · case isTrue hlt =>
    cases h
    exact hlt
  · cases h

theorem eq_of_after_eq_some {now due t : Nat} (h : after now due = some t) : due = t := by
  unfold after at h
  split at h
  · exact Option.some.inj h
  · cases h

theorem after_of_lt {now due : Nat} (h : now < due) : after now due = some due := if_pos h

theorem earlier_eq_some {a b : Option Nat} {t : Nat} (h : earlier a b = some t) :
    a = some t ∨ b = some t := by
  cases a with
  | none => exact Or.inr h
  | some x =>
    cases b with
    | none => exact Or.inl h
    | some y =>
      simp only [earlier, Option.some.injEq] at h ⊢
      omega

theorem earlier_le_left (x : Nat) (b : Option Nat) : ∃ t, earlier (some x) b = some t ∧ t ≤ x := by
  cases b with
  | none => exact ⟨x, rfl, Nat.le_refl x⟩
  | some y => exact ⟨min x y, rfl, Nat.min_le_left x y⟩

theorem earlier_le_right (y : Nat) (a : Option Nat) : ∃ t, earlier a (some y) = some t ∧ t ≤ y := by
  cases a with
  | none => exact ⟨y, rfl, Nat.le_refl y⟩
  | some x => exact ⟨min x y, rfl, Nat.min_le_right x y⟩

theorem le_of_le_earlier {a b : Option Nat} {t : Nat} (h : ∀ d, earlier a b = some d → t ≤ d) :
    (∀ d, a = some d → t ≤ d) ∧ ∀ d, b = some d → t ≤ d := by
  constructor
  · rintro d rfl
    obtain ⟨d', hd', hle⟩ := earlier_le_left d b
    exact Nat.le_trans (h d' hd') hle
  · rintro d rfl
    obtain ⟨d', hd', hle⟩ := earlier_le_right d a
    exact Nat.le_trans (h d' hd') hle

end EventIntake
