import EventIntake.Proofs.Settings.Items

/-!
# The environment over the settings

The variables are taken one after the other, and each of them sets the items that it names and no
others (`get_assign`).  So the items are what the environment has for them, and else what they were
before (`get_overlay`); the overlay ends at the first variable whose value is none for it
(`overlay_eq_some`).
-/

namespace EventIntake

theorem Variable.mem_all (v : Variable) : v ∈ Variable.all := by
  cases v <;> decide

def Variable.limit? : Variable → Option Nat
  | ingressPort | ingressTlsPort => some Settings.maxPort
  | ingressInstances | waitStartupSeconds => some Settings.maxWord
  | _ => none

def Variable.Takes (v : Variable) (raw : String) : Prop :=
  ∀ limit, v.limit? = some limit → ∃ n, Settings.numberFrom limit raw = .ok n

def Environment.FitsAll (env : Environment) (vs : List Variable) : Prop :=
  ∀ v ∈ vs, ∀ raw, env v.name = some raw → v.Takes raw

inductive Environment.Breaks (env : Environment) : List Variable → EnvironmentError → Prop
  | here {v vs raw limit reason} : env v.name = some raw → v.limit? = some limit →
      Settings.numberFrom limit raw = .error reason → env.Breaks (v :: vs) ⟨v, raw, reason⟩
  | later {v vs e} : (∀ raw, env v.name = some raw → v.Takes raw) → env.Breaks vs e →
      env.Breaks (v :: vs) e

namespace Settings

theorem assign_eq_error {s : Settings} {v : Variable} {raw : String}
    {reason : Number.IntegerError} :
    s.assign v raw = .error reason ↔
      ∃ limit, v.limit? = some limit ∧ numberFrom limit raw = .error reason := by
  cases v <;> simp only [assign, Variable.limit?, Option.some.injEq, exists_eq_left',
    reduceCtorEq, false_and, exists_false]
  all_goals
    cases numberFrom _ raw <;> simp [Except.map]

theorem exists_assign_iff {s : Settings} {v : Variable} {raw : String} :
    (∃ t, s.assign v raw = .ok t) ↔ v.Takes raw := by
  rw [Variable.Takes]
  cases h : s.assign v raw with
  | error reason =>
    obtain ⟨limit, hlimit, hnumber⟩ := assign_eq_error.mp h
    simp [hlimit, hnumber]
  | ok t =>
    simp only [Except.ok.injEq, exists_eq', true_iff]
    intro limit hlimit
    cases hnumber : numberFrom limit raw with
    | ok n => exact ⟨n, rfl⟩
    | error reason => cases h.symm.trans (assign_eq_error.mpr ⟨limit, hlimit, hnumber⟩)

theorem exists_of_map_eq_ok {ε α β : Type} {x : Except ε α} {f : α → β} {b : β}
    (h : x.map f = .ok b) : ∃ a, x = .ok a ∧ f a = b := by
  cases x with
  | error e => cases h
  | ok a => exact ⟨a, rfl, Except.ok.inj h⟩

/-- A variable sets what it names and leaves the rest. -/
theorem get_assign {s t : Settings} {v : Variable} {raw : String} (h : s.assign v raw = .ok t)
    (i : Item) :
    (if i.setBy = some v then i.ofText raw else some (i.get s)) = some (i.get t) := by
  cases v
  case ingressPort | ingressTlsPort | ingressInstances | waitStartupSeconds =>
    obtain ⟨n, hn, rfl⟩ := exists_of_map_eq_ok h
    cases i <;> first | rfl | (simp only [Item.setBy, Item.ofText, hn]; rfl)
  all_goals
    cases h
    cases i <;> rfl

def Item.text? (env : Environment) (vs : List Variable) (i : Item) : Option String :=
  i.setBy.bind fun v => if v ∈ vs then env v.name else none

theorem Item.text?_cons (env : Environment) (v : Variable) (vs : List Variable) (i : Item) :
    i.text? env (v :: vs) = if i.setBy = some v then env v.name else i.text? env vs := by
  rw [text?, text?]
  cases h : i.setBy with
  | none => simp
  | some u =>
    by_cases hu : u = v
    · subst hu
      simp
    · simp [hu]

/-- After the variables were taken, an item is what its variable says, if it is set. -/
theorem get_overlayFrom {env : Environment} {vs : List Variable} (hnodup : vs.Nodup)
    {s t : Settings} (h : overlayFrom env vs s = (t, none)) (i : Item) :
    (i.text? env vs).elim (some (i.get s)) i.ofText = some (i.get t) := by
  induction vs generalizing s with
  | nil =>
    cases h
    cases hi : i.setBy <;> simp [Item.text?, hi]
  | cons v vs ih =>
    obtain ⟨hnot, hnodup⟩ := List.nodup_cons.mp hnodup
    have hrest : i.setBy = some v → i.text? env vs = none := by
      intro hi
      simp [Item.text?, hi, hnot]
    rw [overlayFrom] at h
    rw [Item.text?_cons]
    cases hv : env v.name with
    | none =>
      simp only [hv] at h
      have hget := ih hnodup h
      split
      · case isTrue hi => rwa [hrest hi] at hget
      · exact hget
    | some raw =>
      simp only [hv] at h
      split at h
      · case _ u hassign =>
        have hset := get_assign hassign i
        have hget := ih hnodup h
        split
        · case isTrue hi =>
          rw [if_pos hi] at hset
          rw [hrest hi] at hget
          exact hset.trans hget
        · case isFalse hi =>
          rw [if_neg hi] at hset
          rwa [← Option.some.inj hset] at hget
      · cases h

theorem overlayFrom_fits {env : Environment} {vs : List Variable} {s : Settings} :
    (overlayFrom env vs s).2 = none ↔ env.FitsAll vs := by
  induction vs generalizing s with
  | nil => simp [overlayFrom, Environment.FitsAll]
  | cons v vs ih =>
    rw [overlayFrom, Environment.FitsAll, List.forall_mem_cons, ← Environment.FitsAll]
    cases hv : env v.name with
    | none => simpa using ih
    | some raw =>
      simp only [Option.some.injEq, forall_eq']
      rw [← @exists_assign_iff s]
      cases hassign : s.assign v raw with
      | ok t => simpa using ih
      | error reason => simp

theorem overlayFrom_breaks {env : Environment} {vs : List Variable} {s : Settings}
    {e : EnvironmentError} : (overlayFrom env vs s).2 = some e ↔ env.Breaks vs e := by
  induction vs generalizing s with
  | nil => exact ⟨nofun, nofun⟩
  | cons v vs ih =>
    rw [overlayFrom]
    cases hv : env v.name with
    | none =>
      refine ih.trans ⟨.later (by simp [hv]), fun h => ?_⟩
      cases h with
      | here hset => cases hv.symm.trans hset
      | later _ h => exact h
    | some raw =>
      dsimp only
      split
      · case _ t hassign =>
        have htakes := exists_assign_iff.mp ⟨t, hassign⟩
        refine ih.trans ⟨.later fun other hother => ?_, fun h => ?_⟩
        · cases hv.symm.trans hother
          exact htakes
        · cases h with
          | here hset hlimit hnumber =>
            cases hv.symm.trans hset
            obtain ⟨n, hn⟩ := htakes _ hlimit
            cases hn.symm.trans hnumber
          | later _ h => exact h
      · case _ reason hassign =>
        obtain ⟨limit, hlimit, hnumber⟩ := assign_eq_error.mp hassign
        rw [Option.some.injEq]
        constructor
        · rintro rfl
          exact .here hv hlimit hnumber
        · intro h
          cases h with
          | here hset hlimit' hnumber' =>
            cases hv.symm.trans hset
            cases hlimit.symm.trans hlimit'
            cases hnumber.symm.trans hnumber'
            rfl
          | later htakes h =>
            obtain ⟨n, hn⟩ := htakes raw hv limit hlimit
            cases hn.symm.trans hnumber

theorem overlay_eq_none (env : Environment) (s : Settings) :
    (s.overlay env).2 = none ↔ env.FitsAll Variable.all :=
  overlayFrom_fits

theorem overlay_eq_some (env : Environment) (s : Settings) (e : EnvironmentError) :
    (s.overlay env).2 = some e ↔ env.Breaks Variable.all e :=
  overlayFrom_breaks

theorem fitsAll_or_breaks (env : Environment) :
    env.FitsAll Variable.all ∨ ∃ e, env.Breaks Variable.all e := by
  cases h : (overlay env {}).2 with
  | none => exact .inl ((overlay_eq_none env {}).mp h)
  | some e => exact .inr ⟨e, (overlay_eq_some env {} e).mp h⟩

/-- **The environment goes before the settings, item by item.** -/
theorem get_overlay {env : Environment} {s t : Settings} (h : s.overlay env = (t, none))
    (i : Item) : i.get t = (i.overriding env).getD (i.get s) := by
  have hget := get_overlayFrom (by decide) h i
  have htext : i.text? env Variable.all = i.setBy.bind fun v => env v.name := by
    simp only [Item.text?, Variable.mem_all, if_true]
  rw [htext] at hget
  rw [Item.overriding]
  cases hraw : i.setBy.bind fun v => env v.name with
  | none =>
    rw [hraw] at hget
    exact (Option.some.inj hget).symm
  | some raw =>
    rw [hraw, Option.elim_some] at hget
    rw [Option.bind_some, hget, Option.getD_some]

end Settings

end EventIntake
