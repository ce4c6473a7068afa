import EventIntake.Proofs.Text.Lines
import EventIntake.Settings.Tracing
import Mathlib.Control.Monad.Basic

/-!
# Blanks in the tracing directory

What a tracing directory comes to is decided by which of its key files can be read, and by what
stands in them between the blanks at both ends (`ofDirectory_congr`).  A backend or an endpoint that
is blank is as good as none (`ofDirectory_unset`).  A sample rate is not: where it is blank the
directory is refused for it unless it is refused for something else, while the default rate applies
once the file is gone (`ofDirectory_blank_rate`).
-/

namespace EventIntake

namespace TracingSettings

def keys : List String := ["backend", "zipkin-endpoint", "sample-rate"]

def keyFile (files : Files.Tree) (dir key : String) : Except ReadError String :=
  files.readText (keyPath dir key)

/-- Two readings of a file: it cannot be read for one and the same reason, or the text is the same
but for the blanks around it. -/
inductive Agrees : Except ReadError String → Except ReadError String → Prop
  | text {s s' : String} (h : Text.SameInside s.toList s'.toList) : Agrees (.ok s) (.ok s')
  | unreadable (reason : ReadError) : Agrees (.error reason) (.error reason)

/-- The file of a key is blank in `files` and missing in `files'`, which has the other key files as
they are. -/
structure Cleared (files files' : Files.Tree) (dir key : String) : Prop where
  blank : ∃ s, keyFile files dir key = .ok s ∧ ∀ c ∈ s.toList, Text.isBlank c = true
  gone : keyFile files' dir key = .error .notFound
  kept : ∀ other ∈ keys, other ≠ key → keyFile files' dir other = keyFile files dir other

variable {files files' : Files.Tree} {dir key : String}

/-! ## One key -/

theorem keyText_eq (files : Files.Tree) (dir key : String) : keyText files dir key =
    match keyFile files dir key with
    | .ok value => .ok (some (Text.trimmed value))
    | .error .notFound => .ok Option.none
    | .error reason => .error (.unreadable (keyPath dir key) reason) := rfl

theorem keyText_congr (h : Agrees (keyFile files dir key) (keyFile files' dir key)) :
    keyText files dir key = keyText files' dir key := by
  rw [keyText_eq, keyText_eq]
  generalize keyFile files dir key = reading at h ⊢
  generalize keyFile files' dir key = reading' at h ⊢
  cases h with
  | text h => simp only [Text.trimmed, Text.sameInside_iff.mp h]
  | unreadable reason => rfl

namespace Cleared

theorem keyText_blank (h : Cleared files files' dir key) :
    keyText files dir key = .ok (some "") := by
  obtain ⟨s, hread, hblank⟩ := h.blank
  have hnil : Text.trimmed s = "" := congrArg String.ofList (Text.trim_eq_nil_iff.mpr hblank)
  simp only [keyText_eq, hread, hnil]

theorem keyText_gone (h : Cleared files files' dir key) :
    keyText files' dir key = .ok Option.none := by
  rw [keyText_eq, h.gone]

theorem keyText_kept (h : Cleared files files' dir key) {other : String} (hmem : other ∈ keys)
    (hne : other ≠ key) : keyText files' dir other = keyText files dir other := by
  rw [keyText_eq, keyText_eq, h.kept other hmem hne]

end Cleared

/-! ## The directory -/

/-- What is settled before the sample rate is looked at: the backend, and the endpoint it needs. -/
def target (files : Files.Tree) (dir : String) :
    Except TracingFault (TraceSink × Option String) := do
  let backend ← backendOf (← keyText files dir "backend")
  let endpoint := (← keyText files dir "zipkin-endpoint").filter (· ≠ "")
  if backend = .zipkin ∧ endpoint = Option.none then throw .missingEndpoint
  return (backend, endpoint)

/-- The sample rate is looked at last. -/
theorem ofDirectory_eq (files : Files.Tree) (dir : String) : ofDirectory files dir =
    target files dir >>= fun (backend, endpoint) =>
      (keyText files dir "sample-rate" >>= rateOf).map fun rate => ⟨backend, endpoint, rate⟩ := by
  simp only [ofDirectory, target, bind_assoc]
  refine congrArg _ (funext fun name => congrArg _ (funext fun backend => congrArg _
    (funext fun endpoint => ?_)))
  split
  · rfl
  · cases keyText files dir "sample-rate" with
    | error e => rfl
    | ok value =>
      simp only [bind, Except.bind]
      cases rateOf value with
      | error e => rfl
      | ok rate => rfl

/-- **Only what is inside the key files counts**, and which of them can be read. -/
theorem ofDirectory_congr
    (h : ∀ key ∈ keys, Agrees (keyFile files dir key) (keyFile files' dir key)) :
    ofDirectory files' dir = ofDirectory files dir := by
  have hbackend := keyText_congr (h "backend" (by simp [keys]))
  have hendpoint := keyText_congr (h "zipkin-endpoint" (by simp [keys]))
  have hrate := keyText_congr (h "sample-rate" (by simp [keys]))
  rw [ofDirectory, ofDirectory, hbackend, hendpoint, hrate]

/-- **A blank backend and a blank endpoint are as good as none.** -/
theorem ofDirectory_unset (hkey : key = "backend" ∨ key = "zipkin-endpoint")
    (h : Cleared files files' dir key) : ofDirectory files' dir = ofDirectory files dir := by
  have hblank := h.keyText_blank
  have hgone := h.keyText_gone
  rcases hkey with rfl | rfl
  · have hendpoint : keyText files' dir "zipkin-endpoint" = keyText files dir "zipkin-endpoint" :=
      h.keyText_kept (by simp [keys]) (by decide)
    have hrate : keyText files' dir "sample-rate" = keyText files dir "sample-rate" :=
      h.keyText_kept (by simp [keys]) (by decide)
    rw [ofDirectory, ofDirectory, hblank, hgone, hendpoint, hrate]
    rfl
  · have hbackend : keyText files' dir "backend" = keyText files dir "backend" :=
      h.keyText_kept (by simp [keys]) (by decide)
    have hrate : keyText files' dir "sample-rate" = keyText files dir "sample-rate" :=
      h.keyText_kept (by simp [keys]) (by decide)
    rw [ofDirectory, ofDirectory, hblank, hgone, hbackend, hrate]
    rfl

/-- **A blank sample rate is refused where nothing else is**, while without its file the default
applies. -/
theorem ofDirectory_blank_rate (h : Cleared files files' dir "sample-rate") :
    (∃ fault, target files dir = .error fault ∧ ofDirectory files dir = .error fault ∧
      ofDirectory files' dir = .error fault) ∨
    ∃ backend endpoint, target files dir = .ok (backend, endpoint) ∧
      ofDirectory files dir = .error (.sampleRate "") ∧
      ofDirectory files' dir = .ok ⟨backend, endpoint, defaultRate⟩ := by
  have hbackend : keyText files' dir "backend" = keyText files dir "backend" :=
    h.keyText_kept (by simp [keys]) (by decide)
  have hendpoint : keyText files' dir "zipkin-endpoint" = keyText files dir "zipkin-endpoint" :=
    h.keyText_kept (by simp [keys]) (by decide)
  have htarget : target files' dir = target files dir := by
    rw [target, target, hbackend, hendpoint]
  rw [ofDirectory_eq, ofDirectory_eq, htarget, h.keyText_blank, h.keyText_gone]
  cases target files dir with
  | error fault => exact .inl ⟨fault, rfl, rfl, rfl⟩
  | ok settled =>
    obtain ⟨backend, endpoint⟩ := settled
    exact .inr ⟨backend, endpoint, rfl, rfl, rfl⟩

structure SeesInside (files : Files.Tree) (dir : String) : Prop where
  /-- Which key files can be read, and what stands in them between blanks, is all that counts. -/
  inside : ∀ files', (∀ key ∈ keys, Agrees (keyFile files dir key) (keyFile files' dir key)) →
    ofDirectory files' dir = ofDirectory files dir
  /-- The file of a blank backend or a blank endpoint can as well be missing. -/
  unset : ∀ files' key, key = "backend" ∨ key = "zipkin-endpoint" →
    Cleared files files' dir key → ofDirectory files' dir = ofDirectory files dir
  /-- A blank sample rate is a fault of its own, unless the backend or the endpoint is at fault. -/
  rate : ∀ files', Cleared files files' dir "sample-rate" →
    (∃ fault, target files dir = .error fault ∧ ofDirectory files dir = .error fault ∧
      ofDirectory files' dir = .error fault) ∨
    ∃ backend endpoint, target files dir = .ok (backend, endpoint) ∧
      ofDirectory files dir = .error (.sampleRate "") ∧
      ofDirectory files' dir = .ok ⟨backend, endpoint, defaultRate⟩

/-- **The settings see what is inside the key files**, and of a blank one whether it is there only
where it is the sample rate's. -/
theorem ofDirectory_seesInside (files : Files.Tree) (dir : String) : SeesInside files dir where
  inside _ h := ofDirectory_congr h
  unset _ _ hkey h := ofDirectory_unset hkey h
  rate _ h := ofDirectory_blank_rate h

/-- A directory with nothing but a blank sample rate is refused, and is in order once that file is
removed. -/
theorem blank_rate_refused :
    let files : Files.Tree := ⟨[(["t"], .directory), (["t", "sample-rate"], .file " \n".toUTF8)]⟩
    let files' := files.remove "t/sample-rate"
    Cleared files files' "t" "sample-rate" ∧ ofDirectory files "t" = .error (.sampleRate "") ∧
      ofDirectory files' "t" = .ok TracingSettings.default := by
  have hblank : ∀ c ∈ " \n".toList, Text.isBlank c = true :=
    Text.trim_eq_nil_iff.mp (by decide +kernel)
  refine ⟨⟨⟨" \n", by decide +kernel, hblank⟩, by decide +kernel, ?_⟩, by decide +kernel,
    by decide +kernel⟩
  decide +kernel

end TracingSettings

end EventIntake
