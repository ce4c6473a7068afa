import EventIntake.Proofs.Settings.Items
import EventIntake.Proofs.Text.Lines
import EventIntake.Settings.Validation
import Mathlib.Data.List.Nodup

/-!
# What settings have to satisfy

The constraints on settings stand in a fixed order (`Constraint.all`).  Each of them sees some items
only (`look_congr`) and is told of by a violation that no other constraint has (`Breaks.blamed`).
So the violations of settings are those of the constraints that do not hold, one for each and in
order (`violations_reports`).
-/

namespace EventIntake.Settings

variable {s t : Settings} {v : Violation}

def Item.path (i : Item) : String := i.home.name ++ "." ++ i.key

/-! ## Durations -/

inductive Timing where
  | wait
  | phaseTimeout
  | pollInterval
  | startupTimeout
  | resync
  | closeTimeout
  deriving DecidableEq

namespace Timing

def all : List Timing := [wait, phaseTimeout, pollInterval, startupTimeout, resync, closeTimeout]

def item : Timing → Item
  | wait => .waitSecs
  | phaseTimeout => .phaseTimeoutSecs
  | pollInterval => .pollIntervalMillis
  | startupTimeout => .startupTimeoutSecs
  | resync => .resyncSecs
  | closeTimeout => .closeTimeoutSecs

def number : Timing → Settings → Nat
  | wait => Item.waitSecs.get
  | phaseTimeout => Item.phaseTimeoutSecs.get
  | pollInterval => Item.pollIntervalMillis.get
  | startupTimeout => Item.startupTimeoutSecs.get
  | resync => Item.resyncSecs.get
  | closeTimeout => Item.closeTimeoutSecs.get

def perDay : Timing → Nat
  | pollInterval => maxDurationSecs * 1000
  | _ => maxDurationSecs

def span : Timing → Settings → Duration
  | wait => Settings.wait
  | phaseTimeout => Settings.phaseTimeout
  | pollInterval => Settings.pollInterval
  | startupTimeout => Settings.startupTimeout
  | resync => Settings.resyncInterval
  | closeTimeout => Settings.closeTimeout

end Timing

def day : Duration := .ofSecs maxDurationSecs

theorem span_eq_zero (d : Timing) (s : Settings) : (d.span s).nanos = 0 ↔ d.number s = 0 := by
  cases d
  case pollInterval =>
    change s.watcher.pollIntervalMillis * 1000000 = 0 ↔ s.watcher.pollIntervalMillis = 0
    omega
  all_goals
    change _ * 1000000000 = 0 ↔ _ = 0
    exact Nat.mul_eq_zero.trans (or_iff_left (by decide))

theorem day_lt_span (d : Timing) (s : Settings) :
    day.nanos < (d.span s).nanos ↔ d.perDay < d.number s := by
  cases d
  case pollInterval =>
    change 86400 * 1000000000 < s.watcher.pollIntervalMillis * 1000000 ↔
      86400 * 1000 < s.watcher.pollIntervalMillis
    omega
  all_goals
    change 86400 * 1000000000 < _ * 1000000000 ↔ 86400 < _
    exact Nat.mul_lt_mul_right (by decide)

/-! ## Constraints -/

inductive Constraint where
  | port
  | tlsPort
  | instances
  | timing (d : Timing)
  | distinctPorts
  | contractPath
  | bindHost
  | endpoint
  | metricsAddress
  deriving DecidableEq

namespace Constraint

def all : List Constraint :=
  [port, tlsPort, instances] ++ Timing.all.map timing
    ++ [distinctPorts, contractPath, bindHost, endpoint, metricsAddress]

theorem mem_all (c : Constraint) : c ∈ all := by
  cases c
  case timing d => cases d <;> decide
  all_goals decide

def items : Constraint → List Item
  | port => [.port]
  | tlsPort => [.tlsPort]
  | instances => [.instances]
  | timing d => [d.item]
  | distinctPorts => [.port, .tlsPort]
  | contractPath => [.contract]
  | bindHost => [.bindHost]
  | endpoint => [.endpoint]
  | metricsAddress => [.metricsEnabled, .metricsAddress]

def Holds (s : Settings) : Constraint → Prop
  | port => s.ingress.port ≠ 0
  | tlsPort => s.ingress.tlsPort ≠ 0
  | instances => s.ingress.instances ≠ some 0
  | timing d => 0 < (d.span s).nanos ∧ (d.span s).nanos ≤ day.nanos
  | distinctPorts => s.ingress.port ≠ 0 → s.ingress.port ≠ s.ingress.tlsPort
  | contractPath => s.paths.contract ≠ ""
  | bindHost => ∃ c ∈ s.ingress.bindHost.toList, Text.isBlank c = false
  | endpoint => ∀ text, s.capability.endpoint = some text → ∃ url, Url.parse text = .ok url
  | metricsAddress => s.observability.metricsEnabled = true →
      ∃ address, Net.SocketAddress.ofText? s.observability.metricsAddress = some address

def look (s : Settings) : Constraint → Option Violation
  | port => nonZero s.ingress.port Item.port.path
  | tlsPort => nonZero s.ingress.tlsPort Item.tlsPort.path
  | instances => s.ingress.instances.bind fun n => nonZero n Item.instances.path
  | timing d => duration (d.number s) d.perDay d.item.path
  | distinctPorts => s.portConflict
  | contractPath => if s.paths.contract = "" then some (.empty Item.contract.path) else none
  | bindHost =>
    if Text.trim s.ingress.bindHost.toList = [] then some (.empty Item.bindHost.path) else none
  | endpoint => s.badEndpoint
  | metricsAddress => s.badMetricsAddress

def ofViolation? : Violation → Option Constraint
  | .zero field | .tooLarge field _ =>
    [port, tlsPort, instances, .timing .wait, .timing .phaseTimeout, .timing .pollInterval,
      .timing .startupTimeout, .timing .resync, .timing .closeTimeout].find? fun c =>
        c.items.map Item.path = [field]
  | .empty field => [contractPath, bindHost].find? fun c => c.items.map Item.path = [field]
  | .portConflict _ => some distinctPorts
  | .endpoint _ _ => some endpoint
  | .metricsAddress _ => some metricsAddress

end Constraint

/-- A constraint that does not hold, and the violation that tells of it. -/
inductive Breaks (s : Settings) : Constraint → Violation → Prop
  | port : s.ingress.port = 0 → s.Breaks .port (.zero Item.port.path)
  | tlsPort : s.ingress.tlsPort = 0 → s.Breaks .tlsPort (.zero Item.tlsPort.path)
  | instances : s.ingress.instances = some 0 → s.Breaks .instances (.zero Item.instances.path)
  | zero (d : Timing) : (d.span s).nanos = 0 → s.Breaks (.timing d) (.zero d.item.path)
  | tooLarge (d : Timing) : day.nanos < (d.span s).nanos →
      s.Breaks (.timing d) (.tooLarge d.item.path d.perDay)
  | distinctPorts : s.ingress.port ≠ 0 → s.ingress.port = s.ingress.tlsPort →
      s.Breaks .distinctPorts (.portConflict s.ingress.port)
  | contractPath : s.paths.contract = "" → s.Breaks .contractPath (.empty Item.contract.path)
  | bindHost : (∀ c ∈ s.ingress.bindHost.toList, Text.isBlank c = true) →
      s.Breaks .bindHost (.empty Item.bindHost.path)
  | endpoint {text : String} {reason : Url.ParseError} : s.capability.endpoint = some text →
      Url.parse text = .error reason → s.Breaks .endpoint (.endpoint text reason)
  | metricsAddress : s.observability.metricsEnabled = true →
      Net.SocketAddress.ofText? s.observability.metricsAddress = none →
      s.Breaks .metricsAddress (.metricsAddress s.observability.metricsAddress)

/-! ## What each of them finds -/

theorem findings_eq (s : Settings) : s.findings = Constraint.all.map (Constraint.look s) := rfl

theorem nonZero_eq_some {value : Nat} {field : String} :
    nonZero value field = some v ↔ value = 0 ∧ v = .zero field := by
  rw [nonZero]
  split <;> simp_all [eq_comm]

theorem of_look_if {p : Prop} [Decidable p] {x : Violation}
    (h : (if p then some x else none) = some v) : p ∧ v = x := by
  obtain ⟨hp, hx⟩ := Option.ite_none_right_eq_some.mp h
  exact ⟨hp, (Option.some.inj hx).symm⟩

theorem duration_eq_some {value max : Nat} {field : String} :
    duration value max field = some v ↔
      value = 0 ∧ v = .zero field ∨ value ≠ 0 ∧ max < value ∧ v = .tooLarge field max := by
  rw [duration]
  split
  · case isTrue hzero => simp [hzero, eq_comm]
  · case isFalse hzero =>
    split
    · case isTrue hlt => simp [hzero, hlt, eq_comm]
    · case isFalse hlt => simp [hzero, hlt]

theorem breaks_of_look {c : Constraint} (h : c.look s = some v) : s.Breaks c v := by
  cases c with
  | port =>
    obtain ⟨hzero, rfl⟩ := nonZero_eq_some.mp h
    exact .port hzero
  | tlsPort =>
    obtain ⟨hzero, rfl⟩ := nonZero_eq_some.mp h
    exact .tlsPort hzero
  | instances =>
    obtain ⟨n, hset, hn⟩ := Option.bind_eq_some_iff.mp h
    obtain ⟨rfl, rfl⟩ := nonZero_eq_some.mp hn
    exact .instances hset
  | timing d =>
    rcases duration_eq_some.mp h with ⟨hzero, rfl⟩ | ⟨-, hlt, rfl⟩
    · exact .zero d ((span_eq_zero d s).mpr hzero)
    · exact .tooLarge d ((day_lt_span d s).mpr hlt)
  | distinctPorts =>
    obtain ⟨⟨hset, hsame⟩, rfl⟩ := of_look_if h
    exact .distinctPorts hset hsame
  | contractPath =>
    obtain ⟨hempty, rfl⟩ := of_look_if h
    exact .contractPath hempty
  | bindHost =>
    obtain ⟨hempty, rfl⟩ := of_look_if h
    exact .bindHost (Text.trim_eq_nil_iff.mp hempty)
  | endpoint =>
    rw [Constraint.look, badEndpoint] at h
    split at h
    · cases h
    · case h_2 text htext =>
      split at h
      · cases h
      · case h_2 reason hreason =>
        cases h
        exact .endpoint htext hreason
  | metricsAddress =>
    obtain ⟨⟨hon, hnone⟩, rfl⟩ := of_look_if h
    exact .metricsAddress hon (Option.isNone_iff_eq_none.mp hnone)

theorem Breaks.look {c : Constraint} (h : s.Breaks c v) : c.look s = some v := by
  cases h with
  | port hzero => exact if_pos hzero
  | tlsPort hzero => exact if_pos hzero
  | instances hset => rw [Constraint.look, hset, Option.bind_some, nonZero, if_pos rfl]
  | zero d hzero => exact duration_eq_some.mpr (.inl ⟨(span_eq_zero d s).mp hzero, rfl⟩)
  | tooLarge d hlt =>
    have hnumber : d.perDay < d.number s := (day_lt_span d s).mp hlt
    exact duration_eq_some.mpr (.inr ⟨Nat.ne_of_gt (Nat.zero_lt_of_lt hnumber), hnumber, rfl⟩)
  | distinctPorts hset hsame => exact if_pos ⟨hset, hsame⟩
  | contractPath hempty => exact if_pos hempty
  | bindHost hblank => exact if_pos (Text.trim_eq_nil_iff.mpr hblank)
  | endpoint htext hreason => simp only [Constraint.look, badEndpoint, htext, hreason]
  | metricsAddress hon hnone => exact if_pos ⟨hon, Option.isNone_iff_eq_none.mpr hnone⟩

/-- **What a constraint finds is how it is broken.** -/
theorem look_eq_some {c : Constraint} : c.look s = some v ↔ s.Breaks c v :=
  ⟨breaks_of_look, Breaks.look⟩

theorem Breaks.not_holds {c : Constraint} (h : s.Breaks c v) : ¬ c.Holds s := by
  intro hholds
  cases h with
  | port hzero => exact hholds hzero
  | tlsPort hzero => exact hholds hzero
  | instances hset => exact hholds hset
  | zero d hzero => exact Nat.ne_of_gt hholds.1 hzero
  | tooLarge d hlt => exact Nat.not_lt.mpr hholds.2 hlt
  | distinctPorts hset hsame => exact hholds hset hsame
  | contractPath hempty => exact hholds hempty
  | bindHost hblank =>
    obtain ⟨c, hc, hnot⟩ := hholds
    cases hnot.symm.trans (hblank c hc)
  | endpoint htext hreason =>
    obtain ⟨url, hurl⟩ := hholds _ htext
    cases hurl.symm.trans hreason
  | metricsAddress hon hnone =>
    obtain ⟨address, haddress⟩ := hholds hon
    cases haddress.symm.trans hnone

theorem exists_breaks {c : Constraint} (h : ¬ c.Holds s) : ∃ v, s.Breaks c v := by
  cases c with
  | port => exact ⟨_, .port (not_not.mp h)⟩
  | tlsPort => exact ⟨_, .tlsPort (not_not.mp h)⟩
  | instances => exact ⟨_, .instances (not_not.mp h)⟩
  | timing d =>
    rcases Nat.eq_zero_or_pos (d.span s).nanos with hzero | hpos
    · exact ⟨_, .zero d hzero⟩
    · exact ⟨_, .tooLarge d (Nat.not_le.mp fun hle => h ⟨hpos, hle⟩)⟩
  | distinctPorts =>
    obtain ⟨hset, hsame⟩ := Classical.not_imp.mp h
    exact ⟨_, .distinctPorts hset (not_not.mp hsame)⟩
  | contractPath => exact ⟨_, .contractPath (not_not.mp h)⟩
  | bindHost =>
    refine ⟨_, .bindHost fun c hc => ?_⟩
    by_contra hnot
    exact h ⟨c, hc, Bool.eq_false_iff.mpr hnot⟩
  | endpoint =>
    obtain ⟨text, hbad⟩ := not_forall.mp h
    obtain ⟨htext, hbad⟩ := Classical.not_imp.mp hbad
    cases hparse : Url.parse text with
    | ok url => exact absurd ⟨url, hparse⟩ hbad
    | error reason => exact ⟨_, .endpoint htext hparse⟩
  | metricsAddress =>
    obtain ⟨hon, hbad⟩ := Classical.not_imp.mp h
    exact ⟨_, .metricsAddress hon (Option.eq_none_iff_forall_ne_some.mpr (not_exists.mp hbad))⟩

theorem isSome_look_iff (c : Constraint) : (c.look s).isSome = true ↔ ¬ c.Holds s := by
  rw [Option.isSome_iff_exists]
  constructor
  · rintro ⟨v, hv⟩
    exact (breaks_of_look hv).not_holds
  · intro h
    obtain ⟨v, hv⟩ := exists_breaks h
    exact ⟨v, hv.look⟩

/-- **A constraint sees its own items only.** -/
theorem look_congr (c : Constraint) (h : ∀ i ∈ c.items, i.get s = i.get t) :
    c.look s = c.look t := by
  have hport : Item.port ∈ c.items → s.ingress.port = t.ingress.port := h .port
  have htlsPort : Item.tlsPort ∈ c.items → s.ingress.tlsPort = t.ingress.tlsPort := h .tlsPort
  cases c with
  | port => rw [Constraint.look, Constraint.look, hport (by decide)]
  | tlsPort => rw [Constraint.look, Constraint.look, htlsPort (by decide)]
  | instances =>
    have hinstances : s.ingress.instances = t.ingress.instances := h .instances (by decide)
    rw [Constraint.look, Constraint.look, hinstances]
  | timing d =>
    have hnumber : d.number s = d.number t := by
      cases d <;> exact h _ (by decide)
    rw [Constraint.look, Constraint.look, hnumber]
  | distinctPorts =>
    rw [Constraint.look, Constraint.look, portConflict, portConflict, hport (by decide),
      htlsPort (by decide)]
  | contractPath =>
    have hcontract : s.paths.contract = t.paths.contract := h .contract (by decide)
    rw [Constraint.look, Constraint.look, hcontract]
  | bindHost =>
    have hhost : s.ingress.bindHost = t.ingress.bindHost := h .bindHost (by decide)
    rw [Constraint.look, Constraint.look, hhost]
  | endpoint =>
    have hendpoint : s.capability.endpoint = t.capability.endpoint := h .endpoint (by decide)
    rw [Constraint.look, Constraint.look, badEndpoint, badEndpoint, hendpoint]
  | metricsAddress =>
    have henabled : s.observability.metricsEnabled = t.observability.metricsEnabled :=
      h .metricsEnabled (by decide)
    have haddress : s.observability.metricsAddress = t.observability.metricsAddress :=
      h .metricsAddress (by decide)
    rw [Constraint.look, Constraint.look, badMetricsAddress, badMetricsAddress, henabled, haddress]

theorem Breaks.blamed {c : Constraint} (h : s.Breaks c v) :
    Constraint.ofViolation? v = some c := by
  cases h with
  | zero d => cases d <;> decide
  | tooLarge d => cases d <;> decide
  | port | tlsPort | instances | contractPath | bindHost => decide
  | distinctPorts | endpoint | metricsAddress => rfl

/-! ## All of them -/

theorem forall₂_filterMap {α β : Type} {R : α → β → Prop} {f : α → Option β}
    (h : ∀ a b, f a = some b → R a b) (as : List α) :
    List.Forall₂ R (as.filter fun a => (f a).isSome) (as.filterMap f) := by
  induction as with
  | nil => exact .nil
  | cons a as ih =>
    cases ha : f a with
    | none => simpa [ha] using ih
    | some b => simpa [ha] using ⟨h a b ha, ih⟩

theorem violations_eq (s : Settings) :
    s.violations = Constraint.all.filterMap (Constraint.look s) := by
  rw [violations, findings_eq, List.filterMap_map, Function.id_comp]

theorem mem_violations : v ∈ s.violations ↔ ∃ c, s.Breaks c v := by
  rw [violations_eq, List.mem_filterMap]
  exact exists_congr fun c => by rw [and_iff_right c.mem_all, look_eq_some]

theorem violations_nodup (s : Settings) : s.violations.Nodup := by
  have hall : Constraint.all.Nodup := by decide
  rw [violations_eq]
  refine List.Nodup.filterMap (fun c d v hc hd => ?_) hall
  have hblamed := (breaks_of_look hc).blamed.symm.trans (breaks_of_look hd).blamed
  exact Option.some.inj hblamed

theorem isValid_iff (s : Settings) : s.isValid = true ↔ ∀ c : Constraint, c.Holds s := by
  rw [isValid, List.isEmpty_iff, List.eq_nil_iff_forall_not_mem]
  constructor
  · intro h c
    by_contra hnot
    obtain ⟨v, hv⟩ := exists_breaks hnot
    exact h v (mem_violations.mpr ⟨c, hv⟩)
  · intro h v hv
    obtain ⟨c, hc⟩ := mem_violations.mp hv
    exact hc.not_holds (h c)

structure Reports (s : Settings) (vs : List Violation) : Prop where
  /-- One violation for each constraint that does not hold, in their order. -/
  inOrder : ∃ broken, broken.Sublist Constraint.all ∧ (∀ c, c ∈ broken ↔ ¬ c.Holds s) ∧
    List.Forall₂ s.Breaks broken vs
  once : ∀ c v, s.Breaks c v → vs.count v = 1
  nothingElse : ∀ v ∈ vs, ∃ c, s.Breaks c v
  /-- Whatever becomes of the others, a constraint is judged by its own items. -/
  independent : ∀ (c : Constraint) (t : Settings), (∀ i ∈ c.items, i.get s = i.get t) →
    ∀ v, s.Breaks c v ↔ t.Breaks c v
  accepted : s.isValid = true ↔ ∀ c : Constraint, c.Holds s

/-- **Each constraint that does not hold is told once, and no other.** -/
theorem violations_reports (s : Settings) : s.Reports s.violations := by
  constructor
  case inOrder =>
    refine ⟨Constraint.all.filter fun c => (c.look s).isSome, List.filter_sublist, fun c => ?_, ?_⟩
    · rw [List.mem_filter, and_iff_right c.mem_all, isSome_look_iff]
    · rw [violations_eq]
      exact forall₂_filterMap (fun c v => breaks_of_look) _
  case once =>
    intro c v hv
    exact List.count_eq_one_of_mem s.violations_nodup (mem_violations.mpr ⟨c, hv⟩)
  case nothingElse => exact fun v hv => mem_violations.mp hv
  case independent =>
    intro c t h v
    rw [← look_eq_some, ← look_eq_some, look_congr c h]
  case accepted => exact s.isValid_iff

end EventIntake.Settings
