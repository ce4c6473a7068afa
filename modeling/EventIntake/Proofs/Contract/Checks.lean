import EventIntake.Contract.Watch
import Mathlib.Logic.Basic

/-!
# The checks of a watch

One watch is checked again and again.  Between two checks anybody may change anything, and the
handler is any function at all: it may fail, and it may write files while it is called, the watched
one among them.  Each check is kept with the calls that it made.

What a check does is told by what it reads and by what the watch remembers (`checked_faithful`), and
what the watch remembers are the contents that were last accepted (`remembered`).  So a change that
was refused is handed on again, contents that were accepted are not, and what the handler writes
while it is called is a change of its own (`checks_fares`).
-/

namespace EventIntake.Watch

variable {σ : Type}

/-- A check that was made: what there was before it and after it, and the calls of the handler. -/
structure Check (σ : Type) where
  watch : Watch
  before : σ
  calls : List (String × ByteArray)
  outcome : Observation
  next : Watch
  after : σ

/-- A handler that keeps a list of its calls. -/
def recording (handle : σ → String → ByteArray → σ × Except String Unit)
    (s : σ × List (String × ByteArray)) (path : String) (contents : ByteArray) :
    (σ × List (String × ByteArray)) × Except String Unit :=
  let (t, result) := handle s.1 path contents
  ((t, s.2 ++ [(path, contents)]), result)

section

variable (read : σ → String → Except ReadError ByteArray)
  (handle : σ → String → ByteArray → σ × Except String Unit)

def checked (w : Watch) (s : σ) : Check σ :=
  let ((t, calls), next, outcome) :=
    w.check (fun s path => read s.1 path) (recording handle) (s, [])
  ⟨w, s, calls, outcome, next, t⟩

/-- Checks one after the other, each of them after a change by others. -/
def checks (w : Watch) (s : σ) : List (σ → σ) → List (Check σ)
  | [] => []
  | change :: rest =>
    let c := checked read handle w (change s)
    c :: checks c.next c.after rest

end

def Check.published? (c : Check σ) : Option Fingerprint :=
  match c.outcome with
  | .published f => some f
  | _ => none

/-- The fingerprint of what was accepted last. -/
def remembered (log : List (Check σ)) : Option Fingerprint :=
  (log.filterMap Check.published?).getLast?

variable {read : σ → String → Except ReadError ByteArray}
  {handle : σ → String → ByteArray → σ × Except String Unit}

theorem Check.published?_eq_some {c : Check σ} {f : Fingerprint} :
    c.published? = some f ↔ c.outcome = .published f := by
  unfold published?
  cases c.outcome <;> simp

theorem Check.published?_eq_none {c : Check σ} :
    c.published? = none ↔ ∀ f, c.outcome ≠ .published f := by
  rw [Option.eq_none_iff_forall_ne_some]
  exact forall_congr' fun f => not_congr published?_eq_some

/-! ## One check -/

/-- What one check has done, and what it has left alone. -/
structure Check.Faithful (read : σ → String → Except ReadError ByteArray)
    (handle : σ → String → ByteArray → σ × Except String Unit) (c : Check σ) : Prop where
  check : c.watch.check read handle c.before = (c.after, c.next, c.outcome)
  /-- The handler is called for contents that are not those accepted last, and with what was
  read. -/
  called : ∀ path contents, (path, contents) ∈ c.calls ↔ path = c.watch.path ∧
    read c.before path = .ok contents ∧ c.watch.last ≠ some (.of contents)
  once : c.calls.length ≤ 1
  published : ∀ f, c.outcome = .published f ↔ ∃ contents, (c.watch.path, contents) ∈ c.calls ∧
    (handle c.before c.watch.path contents).2 = .ok () ∧ f = .of contents
  advanced : ∀ f, c.outcome = .published f → c.next = ⟨c.watch.path, some f⟩
  kept : (∀ f, c.outcome ≠ .published f) → c.next = c.watch
  after : c.after = c.calls.foldl (fun s call => (handle s call.1 call.2).1) c.before
  unchanged : c.outcome = .unchanged ↔ ∃ contents, read c.before c.watch.path = .ok contents ∧
    c.watch.last = some (.of contents)
  missing : c.outcome = .missing ↔ read c.before c.watch.path = .error .notFound
  unreadable : ∀ path e, c.outcome = .unreadable path e ↔
    path = c.watch.path ∧ e ≠ .notFound ∧ read c.before c.watch.path = .error e
  refused : ∀ path reason, c.outcome = .refused path reason ↔ path = c.watch.path ∧
    ∃ contents, (c.watch.path, contents) ∈ c.calls ∧
      (handle c.before c.watch.path contents).2 = .error reason

theorem look_eq_inr {w : Watch} {r : Except ReadError ByteArray} {contents : ByteArray} :
    w.look r = .inr contents ↔ r = .ok contents ∧ w.last ≠ some (.of contents) := by
  cases r with
  | error e => cases e <;> simp [look]
  | ok found =>
    rw [look]
    split
    · case isTrue hlast =>
      simp only [reduceCtorEq, Except.ok.injEq, ne_eq, false_iff, not_and, not_not]
      rintro rfl
      exact hlast
    · case isFalse hlast =>
      simp only [Sum.inr.injEq, Except.ok.injEq, ne_eq, iff_self_and]
      rintro rfl
      exact hlast

theorem look_eq_inl {w : Watch} {r : Except ReadError ByteArray} {outcome : Observation}
    (h : w.look r = .inl outcome) :
    (∃ contents, r = .ok contents ∧ w.last = some (.of contents) ∧ outcome = .unchanged) ∨
      (r = .error .notFound ∧ outcome = .missing) ∨
      ∃ e, r = .error e ∧ e ≠ .notFound ∧ outcome = .unreadable w.path e := by
  cases r with
  | error e => cases e <;> simpa [look, eq_comm] using h
  | ok contents =>
    rw [look] at h
    split at h
    · case isTrue hlast =>
      cases h
      exact .inl ⟨contents, rfl, hlast, rfl⟩
    · cases h

theorem checked_of_look_inl {w : Watch} {s : σ} {outcome : Observation}
    (h : w.look (read s w.path) = .inl outcome) :
    checked read handle w s = ⟨w, s, [], outcome, w, s⟩ := by
  have hcheck : w.check (fun s path => read s.1 path) (recording handle) (s, []) =
      ((s, []), w, outcome) := check_of_look_inl h
  simp only [checked, hcheck]

theorem checked_of_look_inr {w : Watch} {s : σ} {contents : ByteArray}
    (h : w.look (read s w.path) = .inr contents) :
    checked read handle w s = ⟨w, s, [(w.path, contents)],
      (w.settle contents (handle s w.path contents).2).2,
      (w.settle contents (handle s w.path contents).2).1, (handle s w.path contents).1⟩ := by
  simp only [checked, check, h, recording, List.nil_append]

theorem checked_eq (w : Watch) (s : σ) :
    ((checked read handle w s).after, (checked read handle w s).next,
      (checked read handle w s).outcome) = w.check read handle s := by
  cases h : w.look (read s w.path) with
  | inl outcome => rw [checked_of_look_inl h, check_of_look_inl h]
  | inr contents => simp only [checked_of_look_inr h, check, h]

theorem mem_calls {w : Watch} {s : σ} {path : String} {contents : ByteArray} :
    (path, contents) ∈ (checked read handle w s).calls ↔
      path = w.path ∧ read s path = .ok contents ∧ w.last ≠ some (.of contents) := by
  cases h : w.look (read s w.path) with
  | inl outcome =>
    rw [checked_of_look_inl h]
    refine ⟨fun hmem => absurd hmem List.not_mem_nil, ?_⟩
    rintro ⟨rfl, hnew⟩
    cases h.symm.trans (look_eq_inr.mpr hnew)
  | inr found =>
    rw [checked_of_look_inr h]
    have hfound := look_eq_inr.mp h
    constructor
    · intro hmem
      cases List.mem_singleton.mp hmem
      exact ⟨rfl, hfound⟩
    · rintro ⟨rfl, hnew⟩
      cases h.symm.trans (look_eq_inr.mpr hnew)
      exact List.mem_singleton.mpr rfl

/-- **One check does what the file and the watch call for.** -/
theorem checked_faithful (w : Watch) (s : σ) : (checked read handle w s).Faithful read handle := by
  constructor
  case check => exact (checked_eq w s).symm
  case called => exact fun path contents => mem_calls
  all_goals
    cases h : w.look (read s w.path) with
    | inl outcome =>
      rw [checked_of_look_inl h]
      obtain ⟨contents, hread, hlast, rfl⟩ | ⟨hread, rfl⟩ | ⟨e, hread, he, rfl⟩ := look_eq_inl h <;>
        simp +contextual [*, eq_comm]
    | inr contents =>
      obtain ⟨hread, hnew⟩ := look_eq_inr.mp h
      rw [checked_of_look_inr h]
      cases hresult : (handle s w.path contents).2 <;> simp [settle, hread, hnew, hresult, eq_comm]

/-! ## Checks one after the other -/

theorem Check.Faithful.next_eq {c : Check σ} (h : c.Faithful read handle) :
    c.next = ⟨c.watch.path, c.published?.or c.watch.last⟩ := by
  cases hp : c.published? with
  | none => rw [h.kept (published?_eq_none.mp hp), Option.none_or]
  | some f => rw [h.advanced f (published?_eq_some.mp hp), Option.some_or]

theorem remembered_cons (c : Check σ) (log : List (Check σ)) :
    remembered (c :: log) = (remembered log).or c.published? := by
  rw [remembered, remembered, List.filterMap_cons]
  cases c.published? with
  | none => exact (Option.or_none).symm
  | some f => rw [List.getLast?_cons, Option.or_some]

theorem remembered_append_of_quiet {log rest : List (Check σ)}
    (h : ∀ c ∈ rest, c.published? = none) : remembered (log ++ rest) = remembered log := by
  have hnone : rest.filterMap Check.published? = [] := List.filterMap_eq_nil_iff.mpr h
  rw [remembered, List.filterMap_append, hnone, List.append_nil, remembered]

theorem remembered_of_published {log : List (Check σ)} {c : Check σ} {f : Fingerprint}
    (h : c.outcome = .published f) : remembered (log ++ [c]) = some f := by
  rw [remembered, List.filterMap_append, List.filterMap_cons, Check.published?_eq_some.mpr h]
  exact List.getLast?_concat

/-- Every check of a run is faithful, and finds the watch as the checks before it have left it. -/
theorem checks_split (w : Watch) (s : σ) (changes : List (σ → σ)) {pre post : List (Check σ)}
    {c : Check σ} (h : checks read handle w s changes = pre ++ c :: post) :
    c.Faithful read handle ∧ c.watch = ⟨w.path, (remembered pre).or w.last⟩ := by
  induction changes generalizing w s pre with
  | nil => cases pre <;> cases h
  | cons change rest ih =>
    rw [checks] at h
    cases pre with
    | nil =>
      obtain ⟨rfl, -⟩ := List.cons.inj h
      exact ⟨checked_faithful w (change s), rfl⟩
    | cons d pre =>
      obtain ⟨rfl, hrest⟩ := List.cons.inj h
      obtain ⟨hc, hwatch⟩ := ih _ _ hrest
      refine ⟨hc, ?_⟩
      rw [hwatch, (checked_faithful w (change s)).next_eq, remembered_cons, Option.or_assoc]
      rfl

/-- How a watch of `path` fares over a run of checks. -/
structure Fares (read : σ → String → Except ReadError ByteArray)
    (handle : σ → String → ByteArray → σ × Except String Unit) (path : String)
    (log : List (Check σ)) : Prop where
  each : ∀ c ∈ log, c.Faithful read handle ∧ c.watch.path = path
  /-- A check finds what was accepted last remembered, whatever has failed since. -/
  remembers : ∀ pre c post, log = pre ++ c :: post → c.watch.last = remembered pre
  /-- What was refused is handed on again, after any number of checks that have failed. -/
  retried : ∀ pre c mid d post contents, log = pre ++ c :: mid ++ d :: post →
    (path, contents) ∈ c.calls → (∀ e ∈ c :: mid, ∀ f, e.outcome ≠ .published f) →
      read d.before path = .ok contents → d.calls = [(path, contents)]
  restored : ∀ pre c mid d post contents, log = pre ++ c :: mid ++ d :: post →
    c.outcome = .published (.of contents) → (∀ e ∈ mid, ∀ f, e.outcome ≠ .published f) →
      read d.before path = .ok contents →
        d.calls = [] ∧ d.outcome = .unchanged ∧ d.next = d.watch ∧ d.after = d.before
  /-- Other contents that the handler has left in the file while it was called are handed on by the
  next check. -/
  rewritten : ∀ pre c d post contents written, log = pre ++ c :: d :: post →
    c.outcome = .published (.of contents) → read c.after path = .ok written →
      Fingerprint.of written ≠ .of contents → read d.before path = read c.after path →
        d.calls = [(path, written)]

theorem Check.Faithful.calls_eq {c : Check σ} (h : c.Faithful read handle) {contents : ByteArray}
    (hread : read c.before c.watch.path = .ok contents)
    (hnew : c.watch.last ≠ some (.of contents)) : c.calls = [(c.watch.path, contents)] := by
  have hmem := (h.called c.watch.path contents).mpr ⟨rfl, hread, hnew⟩
  obtain ⟨call, hcall⟩ : ∃ call, c.calls = [call] :=
    List.length_eq_one_iff.mp (Nat.le_antisymm h.once (List.length_pos_of_mem hmem))
  rw [hcall] at hmem ⊢
  rw [List.mem_singleton.mp hmem]

/-- **Whatever changes between the checks and whatever the handler does, each change is handed on
until it is accepted, and once.** -/
theorem checks_fares (read : σ → String → Except ReadError ByteArray)
    (handle : σ → String → ByteArray → σ × Except String Unit) (path : String) (s : σ)
    (changes : List (σ → σ)) :
    Fares read handle path (checks read handle { path } s changes) := by
  have hsplit : ∀ pre c post, checks read handle { path } s changes = pre ++ c :: post →
      c.Faithful read handle ∧ c.watch.path = path ∧ c.watch.last = remembered pre := by
    intro pre c post h
    obtain ⟨hc, hwatch⟩ := checks_split _ s changes h
    rw [hwatch]
    exact ⟨hc, rfl, Option.or_none⟩
  constructor
  case each =>
    intro c hc
    obtain ⟨pre, post, h⟩ := List.append_of_mem hc
    obtain ⟨hfaithful, hpath, -⟩ := hsplit pre c post h
    exact ⟨hfaithful, hpath⟩
  case remembers => exact fun pre c post h => (hsplit pre c post h).2.2
  case retried =>
    intro pre c mid d post contents h hcall hquiet hread
    obtain ⟨hc, hpath, hlast⟩ := hsplit pre c (mid ++ d :: post) (by simpa using h)
    obtain ⟨hd, rfl, hlast'⟩ := hsplit (pre ++ c :: mid) d post h
    have hsame : d.watch.last = c.watch.last := by
      rw [hlast', hlast]
      exact remembered_append_of_quiet fun e he => Check.published?_eq_none.mpr (hquiet e he)
    have hnew := ((hc.called _ contents).mp hcall).2.2
    exact hd.calls_eq hread (hsame ▸ hnew)
  case restored =>
    intro pre c mid d post contents h hpublished hquiet hread
    obtain ⟨hd, rfl, hlast⟩ := hsplit (pre ++ c :: mid) d post h
    have hold : d.watch.last = some (.of contents) := by
      rw [hlast, List.append_cons,
        remembered_append_of_quiet fun e he => Check.published?_eq_none.mpr (hquiet e he),
        remembered_of_published hpublished]
    have hunchanged := hd.unchanged.mpr ⟨contents, hread, hold⟩
    have hcalls : d.calls = [] := by
      refine List.eq_nil_iff_forall_not_mem.mpr fun (p, found) hcall => ?_
      obtain ⟨rfl, hfound, hnew⟩ := (hd.called p found).mp hcall
      cases hread.symm.trans hfound
      exact hnew hold
    refine ⟨hcalls, hunchanged, hd.kept (by simp [hunchanged]), ?_⟩
    rw [hd.after, hcalls, List.foldl_nil]
  case rewritten =>
    intro pre c d post contents written h hpublished hwritten hdiffer hundisturbed
    obtain ⟨hd, rfl, hlast⟩ := hsplit (pre ++ [c]) d post (by simpa using h)
    rw [remembered_of_published hpublished] at hlast
    refine hd.calls_eq (hundisturbed.trans hwritten) fun hold => hdiffer ?_
    exact (Option.some.inj (hlast.symm.trans hold)).symm

end EventIntake.Watch
