import EventIntake.Proofs.Number.Naturals
import EventIntake.Proofs.Settings.Overlay
import Mathlib.Tactic.Push

/-!
# Where the overlay stops

Four of the variables have numbers, and they are taken before all others (`Variable.all_eq`).  So an
overlay stops among them or not at all (`overlay_eq_of_numeric`), and what it leaves when it
stops is what it would have come to with the variables before that one alone
(`overlayFrom_eq_some`).  An overlay that does not stop can be repeated (`overlay_overlay`).
-/

namespace EventIntake

variable {env : Environment} {v : Variable} {raw : String} {n : Nat}

namespace Variable

def numeric : List Variable := [ingressPort, ingressTlsPort, ingressInstances, waitStartupSeconds]

def textual : List Variable :=
  [producerConfigPath, httpServerConfigPath, dataPlaneConfigPath, tracingPath, controlPlaneUrl,
    controlPlaneTokenPath, metricsAddress]

theorem all_eq : all = numeric ++ textual := rfl

theorem isSome_limit? (v : Variable) : v.limit?.isSome = true ↔ v ∈ numeric := by
  cases v <;> decide

/-- Without the blanks around it the value is a number for the variable. -/
def Reads (v : Variable) (raw : String) (n : Nat) : Prop :=
  ∃ limit, v.limit? = some limit ∧ Number.Writes limit (Text.trim raw.toList) n

theorem reads_iff {limit : Nat} (hlimit : v.limit? = some limit) :
    v.Reads raw n ↔ Settings.numberFrom limit raw = .ok n := by
  rw [Settings.numberFrom, Number.nat?_eq_ok, Reads, hlimit]
  simp

theorem takes_of_textual (h : v ∈ textual) : v.Takes raw := by
  have hnone : ∀ v ∈ textual, v.limit? = none := by decide
  intro limit hlimit
  cases (hnone v h).symm.trans hlimit

theorem takes_of_numeric (h : v ∈ numeric) : v.Takes raw ↔ ∃ n, v.Reads raw n := by
  obtain ⟨limit, hlimit⟩ := Option.isSome_iff_exists.mp ((isSome_limit? v).mpr h)
  simp only [Takes, hlimit, Option.some.injEq, forall_eq', reads_iff hlimit]

end Variable

/-- What is set of some variables reads as numbers for them. -/
def Environment.Readable (env : Environment) (vs : List Variable) : Prop :=
  ∀ v ∈ vs, ∀ raw, env v.name = some raw → ∃ n, v.Reads raw n

theorem Environment.fitsAll_numeric {vs : List Variable} (hvs : ∀ v ∈ vs, v ∈ Variable.numeric) :
    env.FitsAll vs ↔ env.Readable vs :=
  forall₂_congr fun v hv => forall₂_congr fun _ _ => Variable.takes_of_numeric (hvs v hv)

theorem Environment.fitsAll_textual : env.FitsAll Variable.textual :=
  fun _ hv _ _ => Variable.takes_of_textual hv

namespace Settings

variable {s t : Settings} {e : EnvironmentError} {vs : List Variable}

/-! ## Item by item -/

/-- What the value of its variable says that an item is. -/
def Item.Says : (i : Item) → String → i.Content → Prop
  | port, raw, n => Variable.ingressPort.Reads raw n
  | tlsPort, raw, n => Variable.ingressTlsPort.Reads raw n
  | instances, raw, n? => ∃ n, n? = some n ∧ Variable.ingressInstances.Reads raw n
  | waitSecs, raw, n => Variable.waitStartupSeconds.Reads raw n
  | producer, raw, text | httpServer, raw, text | contract, raw, text | tracing, raw, text
  | metricsAddress, raw, text => text = raw
  | endpoint, raw, text? | tokenPath, raw, text? => text? = some raw
  | metricsEnabled, _, on => on = true
  | _, _, _ => False

theorem Item.says_iff (i : Item) (x : i.Content) : i.Says raw x ↔ i.ofText raw = some x := by
  have hport (n : Nat) :
      (numberFrom maxPort raw).toOption = some n ↔ numberFrom maxPort raw = .ok n := by
    cases numberFrom maxPort raw <;> simp [Except.toOption]
  have hword (n : Nat) :
      (numberFrom maxWord raw).toOption = some n ↔ numberFrom maxWord raw = .ok n := by
    cases numberFrom maxWord raw <;> simp [Except.toOption]
  cases i with
  | port | tlsPort => exact (Variable.reads_iff rfl).trans (hport x).symm
  | waitSecs => exact (Variable.reads_iff rfl).trans (hword x).symm
  | instances =>
    have hreads : ∀ n, Variable.ingressInstances.Reads raw n ↔ numberFrom maxWord raw = .ok n :=
      fun n => Variable.reads_iff rfl
    simp only [Says, ofText, Option.map_eq_some_iff, hword, hreads]
    exact exists_congr fun n => by rw [and_comm, eq_comm (a := x)]
  | producer | httpServer | contract | tracing | endpoint | tokenPath | metricsEnabled
  | metricsAddress => simp [Says, ofText, eq_comm]
  | bindHost | phaseTimeoutSecs | pollIntervalMillis | enabled | startupTimeoutSecs | resyncSecs
  | requirePermission | closeTimeoutSecs | logLevel | logFormat => simp [Says, ofText]

/-- The settings `t` are `s` with what is set of some variables: an item is what its variable says,
if that is one of them and set, and what it was otherwise. -/
structure Overlaid (env : Environment) (vs : List Variable) (s t : Settings) : Prop where
  told : ∀ (i : Item) v raw,
    i.setBy = some v → v ∈ vs → env v.name = some raw → i.Says raw (i.get t)
  keeps : ∀ i : Item, (∀ v, i.setBy = some v → v ∈ vs → env v.name = none) → i.get t = i.get s

theorem overlaid_of_overlayFrom (hnodup : vs.Nodup) (h : overlayFrom env vs s = (t, none)) :
    Overlaid env vs s t := by
  have hget := get_overlayFrom hnodup h
  constructor
  · intro i v raw hi hv hraw
    have htext : i.text? env vs = some raw := by simp [Item.text?, hi, hv, hraw]
    exact (i.says_iff _).mpr (by simpa [htext] using hget i)
  · intro i hunset
    have htext : i.text? env vs = none := by
      rw [Item.text?, Option.bind_eq_none_iff]
      intro v hi
      split
      · case isTrue hv => exact hunset v hi hv
      · rfl
    exact (by simpa [htext] using hget i : i.get s = i.get t).symm

/-- Nothing else is left open: settings are overlaid in one way only. -/
theorem Overlaid.unique {t' : Settings} (h : Overlaid env vs s t) (h' : Overlaid env vs s t') :
    t = t' := by
  refine eq_of_items fun i => ?_
  by_cases hunset : ∀ v, i.setBy = some v → v ∈ vs → env v.name = none
  · rw [h.keeps i hunset, h'.keeps i hunset]
  · push Not at hunset
    obtain ⟨v, hi, hv, hset⟩ := hunset
    obtain ⟨raw, hraw⟩ := Option.ne_none_iff_exists'.mp hset
    have htold := (i.says_iff _).mp (h.told i v raw hi hv hraw)
    have htold' := (i.says_iff _).mp (h'.told i v raw hi hv hraw)
    exact Option.some.inj (htold.symm.trans htold')

theorem Overlaid.sections (h : Overlaid env vs s t) (hvs : ∀ v ∈ vs, v ∈ Variable.numeric) :
    t.paths = s.paths ∧ t.capability = s.capability ∧ t.observability = s.observability := by
  have hkeeps : ∀ i : Item, (∀ v, i.setBy = some v → v ∉ Variable.numeric) → i.get t = i.get s :=
    fun i hi => h.keeps i fun v hset hv => absurd (hvs v hv) (hi v hset)
  refine ⟨?_, ?_, ?_⟩
  · exact PathSettings.ext (hkeeps .producer (by decide)) (hkeeps .httpServer (by decide))
      (hkeeps .contract (by decide)) (hkeeps .tracing (by decide))
  · exact CapabilitySettings.ext (hkeeps .enabled nofun) (hkeeps .endpoint (by decide))
      (hkeeps .tokenPath (by decide)) (hkeeps .startupTimeoutSecs nofun) (hkeeps .resyncSecs nofun)
      (hkeeps .requirePermission nofun)
  · exact ObservabilitySettings.ext (hkeeps .logLevel nofun) (hkeeps .logFormat nofun)
      (hkeeps .metricsEnabled (by decide)) (hkeeps .metricsAddress (by decide))

/-! ## One variable after the other -/

theorem overlayFrom_congr {env' : Environment} (h : ∀ v ∈ vs, env' v.name = env v.name) :
    overlayFrom env' vs s = overlayFrom env vs s := by
  induction vs generalizing s with
  | nil => rfl
  | cons v vs ih =>
    obtain ⟨hv, hvs⟩ := List.forall_mem_cons.mp h
    simp only [overlayFrom, hv, ih hvs]

theorem overlayFrom_append (vs ws : List Variable) (s : Settings) :
    overlayFrom env (vs ++ ws) s =
      match overlayFrom env vs s with
      | (t, none) => overlayFrom env ws t
      | (t, some e) => (t, some e) := by
  induction vs generalizing s with
  | nil => rfl
  | cons v vs ih =>
    rw [List.cons_append, overlayFrom, overlayFrom]
    cases env v.name with
    | none => exact ih s
    | some raw =>
      dsimp only
      cases s.assign v raw with
      | ok t => exact ih t
      | error reason => rfl

/-- The variables before the one at which the overlay stops were taken. -/
theorem overlayFrom_eq_some (h : overlayFrom env vs s = (t, some e)) :
    ∃ before after, vs = before ++ e.name :: after ∧ overlayFrom env before s = (t, none) ∧
      env e.name.name = some e.value ∧
      ∃ limit, e.name.limit? = some limit ∧ numberFrom limit e.value = .error e.reason := by
  induction vs generalizing s with
  | nil => cases h
  | cons v vs ih =>
    rw [overlayFrom] at h
    cases hv : env v.name with
    | none =>
      simp only [hv] at h
      obtain ⟨before, after, rfl, hbefore, hfail⟩ := ih h
      exact ⟨v :: before, after, rfl, by simp only [overlayFrom, hv, hbefore], hfail⟩
    | some raw =>
      simp only [hv] at h
      cases hassign : s.assign v raw with
      | ok u =>
        simp only [hassign] at h
        obtain ⟨before, after, rfl, hbefore, hfail⟩ := ih h
        exact ⟨v :: before, after, rfl, by simp only [overlayFrom, hv, hassign, hbefore], hfail⟩
      | error reason =>
        simp only [hassign] at h
        cases h
        exact ⟨[], vs, rfl, rfl, hv, assign_eq_error.mp hassign⟩

theorem overlay_eq_of_numeric (env : Environment) (s t : Settings) (e : EnvironmentError) :
    s.overlay env = (t, some e) ↔ overlayFrom env Variable.numeric s = (t, some e) := by
  rw [overlay, Variable.all_eq, overlayFrom_append]
  split
  · case h_1 u hu =>
    have htextual : (overlayFrom env Variable.textual u).2 = none :=
      overlayFrom_fits.mpr Environment.fitsAll_textual
    refine ⟨fun h => ?_, fun h => ?_⟩
    · rw [h] at htextual
      cases htextual
    · cases hu.symm.trans h
  · case h_2 u e' hu => rw [hu]

/-- **An overlay that went through changes nothing the second time.** -/
theorem overlay_overlay (h : s.overlay env = (t, none)) : t.overlay env = (t, none) := by
  have hfits : env.FitsAll Variable.all := (overlay_eq_none env s).mp (by rw [h])
  have hnone : (t.overlay env).2 = none := (overlay_eq_none env t).mpr hfits
  have hagain : t.overlay env = ((t.overlay env).1, none) := Prod.ext rfl hnone
  have hsame : (t.overlay env).1 = t := by
    refine eq_of_items fun i => ?_
    rw [get_overlay hagain i, get_overlay h i]
    cases i.overriding env <;> rfl
  rw [hagain, hsame]

/-! ## Through or stopped -/

/-- The overlay of some settings stopped: at the first numeric variable that is set and is no number
for it, with those before it taken and nothing else touched. -/
structure Stopped (env : Environment) (s t : Settings) (e : EnvironmentError)
    (before : List Variable) : Prop where
  place : ∃ after, Variable.numeric = before ++ e.name :: after
  readable : env.Readable before
  value : env e.name.name = some e.value
  unreadable : ∀ n, ¬ e.name.Reads e.value n
  reason : ∃ limit, e.name.limit? = some limit ∧ numberFrom limit e.value = .error e.reason
  overlaid : Overlaid env before s t
  untouched : t.paths = s.paths ∧ t.capability = s.capability ∧ t.observability = s.observability

/-- How an overlay ends.  One that stops has not looked at the variables that have no number. -/
inductive Ends (env : Environment) (s : Settings) : Settings × Option EnvironmentError → Prop
  | through {t : Settings} : env.Readable Variable.numeric → Overlaid env Variable.all s t →
      t.overlay env = (t, none) → Ends env s (t, none)
  | stopped {t : Settings} {e : EnvironmentError} (before : List Variable) :
      Stopped env s t e before →
      (∀ env' : Environment, (∀ v ∈ Variable.numeric, env' v.name = env v.name) →
        s.overlay env' = (t, some e)) →
      Ends env s (t, some e)

theorem stopped_of_overlayFrom (h : overlayFrom env Variable.numeric s = (t, some e)) :
    ∃ before, Stopped env s t e before := by
  obtain ⟨before, after, hsplit, hbefore, hvalue, limit, hlimit, hreason⟩ := overlayFrom_eq_some h
  have hnumeric : ∀ v ∈ before, v ∈ Variable.numeric := by
    intro v hv
    rw [hsplit]
    exact List.mem_append_left _ hv
  have hnodup : before.Nodup := by
    have hall : Variable.numeric.Nodup := by decide
    rw [hsplit] at hall
    exact (List.nodup_append.mp hall).1
  have hfits : env.FitsAll before := (overlayFrom_fits (s := s)).mp (by rw [hbefore])
  have hoverlaid := overlaid_of_overlayFrom hnodup hbefore
  refine ⟨before, ⟨after, hsplit⟩, (Environment.fitsAll_numeric hnumeric).mp hfits, hvalue, ?_,
    ⟨limit, hlimit, hreason⟩, hoverlaid, hoverlaid.sections hnumeric⟩
  intro n hn
  cases hreason.symm.trans ((Variable.reads_iff hlimit).mp hn)

/-- **The variables are taken up to the first that is no number where one is wanted.** -/
theorem overlay_ends (env : Environment) (s : Settings) : Ends env s (s.overlay env) := by
  rcases h : s.overlay env with ⟨t, _ | e⟩
  · have hfits : env.FitsAll Variable.all := (overlay_eq_none env s).mp (by rw [h])
    have hnumeric : env.FitsAll Variable.numeric := fun v _ => hfits v v.mem_all
    exact .through ((Environment.fitsAll_numeric fun _ hv => hv).mp hnumeric)
      (overlaid_of_overlayFrom (by decide) h) (overlay_overlay h)
  · have hstops := (overlay_eq_of_numeric env s t e).mp h
    obtain ⟨before, hstopped⟩ := stopped_of_overlayFrom hstops
    refine .stopped before hstopped fun env' hagree => ?_
    exact (overlay_eq_of_numeric env' s t e).mpr ((overlayFrom_congr hagree).trans hstops)

end Settings

end EventIntake
