import EventIntake.Proofs.Settings.Overlay
import EventIntake.Proofs.Settings.Sections

/-!
# How settings are resolved

The settings that come out are judged, not those of the document: a variable can mend or break what
the document says.  So the result of a load is told by the document, the environment and the
defaults, item by item, and the first stage that fails is the one that is reported
(`load_resolves`).
-/

namespace EventIntake.Settings

open Toml (Value)

/-- What the document at a path holds, if it can be read and is one.  Without a path there is
nothing in it. -/
def Supplies (files : Files.Tree) : Option String → List (String × Value) → Prop
  | none, entries => entries = []
  | some path, entries => ∃ text, files.readText path = .ok text ∧
      Toml.parse text = some entries ∧ Fits entries

theorem ofDocument?_eq_none {text : String} :
    ofDocument? text = none ↔ ∀ entries, Toml.parse text = some entries → ¬ Fits entries := by
  rw [ofDocument?]
  cases Toml.parse text with
  | none => simp
  | some entries => simp [← isSome_read_iff_fits]

theorem exists_fits_of_ofDocument? {text : String} {s : Settings} (h : ofDocument? text = some s) :
    ∃ entries, Toml.parse text = some entries ∧ Fits entries := by
  obtain ⟨entries, hparse, hread⟩ := Option.bind_eq_some_iff.mp h
  exact ⟨entries, hparse, (isSome_read_iff_fits entries).mp (hread ▸ rfl)⟩

theorem Supplies.ofFile {files : Files.Tree} {path : Option String}
    {entries : List (String × Value)} (h : Supplies files path entries) :
    ∃ s, ofFile files path = .ok s ∧
      ∀ i : Item, i.get s = (i.given entries).getD (i.get {}) := by
  cases path with
  | none =>
    cases h
    exact ⟨{}, rfl, fun i => rfl⟩
  | some path =>
    obtain ⟨text, htext, hparse, hfits⟩ := h
    obtain ⟨s, hs⟩ := Option.isSome_iff_exists.mp ((isSome_read_iff_fits entries).mpr hfits)
    refine ⟨s, ?_, get_eq_given hs⟩
    simp [Settings.ofFile, htext, ofDocument?, hparse, hs]

theorem Supplies.unique {files : Files.Tree} {path : Option String}
    {entries entries' : List (String × Value)} (h : Supplies files path entries)
    (h' : Supplies files path entries') : entries = entries' := by
  cases path with
  | none => exact h.trans h'.symm
  | some path =>
    obtain ⟨text, htext, hparse, -⟩ := h
    obtain ⟨text', htext', hparse', -⟩ := h'
    cases htext.symm.trans htext'
    exact Option.some.inj (hparse.symm.trans hparse')

section

variable {files : Files.Tree} {path : Option String} {env : Environment}
  {entries : List (String × Value)}

theorem load_of_breaks (h : Supplies files path entries) {e : EnvironmentError}
    (he : env.Breaks Variable.all e) : load files path env = .error (.environment e) := by
  obtain ⟨s, hs, -⟩ := h.ofFile
  have herror := (overlay_eq_some env s e).mpr he
  simp only [load, hs]
  cases hoverlay : s.overlay env with
  | mk t error =>
    rw [hoverlay] at herror
    cases herror
    rfl

theorem load_of_fitsAll (h : Supplies files path entries) (hfits : env.FitsAll Variable.all) :
    ∃ s, (∀ i : Item, i.get s = i.resolved env entries) ∧
      load files path env =
        if s.violations = [] then .ok s else .error (.invalid s.violations) := by
  obtain ⟨s, hs, hgiven⟩ := h.ofFile
  have hnone := (overlay_eq_none env s).mpr hfits
  simp only [load, hs]
  cases hoverlay : s.overlay env with
  | mk t error =>
    rw [hoverlay] at hnone
    cases hnone
    refine ⟨t, fun i => ?_, by simp only [isValid, List.isEmpty_iff]⟩
    rw [get_overlay hoverlay i, hgiven i, Item.resolved]

theorem Supplies.resolved_unique {entries' : List (String × Value)}
    (h : Supplies files path entries) (h' : Supplies files path entries') {s t : Settings}
    (hs : ∀ i : Item, i.get s = i.resolved env entries)
    (ht : ∀ i : Item, i.get t = i.resolved env entries') : s = t := by
  cases h.unique h'
  exact eq_of_items fun i => (hs i).trans (ht i).symm

/-- What a load comes to, stage by stage. -/
inductive Outcome (files : Files.Tree) (path : Option String) (env : Environment) :
    Except LoadError Settings → Prop
  | unreadable {e} : path = some e.path → files.readText e.path = .error e.reason →
      Outcome files path env (.error (.unreadable e))
  | unfit {p text} : path = some p → files.readText p = .ok text →
      (∀ entries, Toml.parse text = some entries → ¬ Fits entries) →
      Outcome files path env (.error (.unfit p))
  | environment {entries e} : Supplies files path entries → env.Breaks Variable.all e →
      Outcome files path env (.error (.environment e))
  | invalid {entries s} : Supplies files path entries → env.FitsAll Variable.all →
      (∀ i : Item, i.get s = i.resolved env entries) → s.violations ≠ [] →
      Outcome files path env (.error (.invalid s.violations))
  | accepted {entries s} : Supplies files path entries → env.FitsAll Variable.all →
      (∀ i : Item, i.get s = i.resolved env entries) → s.violations = [] →
      Outcome files path env (.ok s)

theorem Supplies.outcome (h : Supplies files path entries) (env : Environment) :
    Outcome files path env (load files path env) := by
  rcases fitsAll_or_breaks env with hfits | ⟨e, hbreaks⟩
  · obtain ⟨s, hs, hload⟩ := load_of_fitsAll h hfits
    rw [hload]
    split
    · case isTrue hvalid => exact .accepted h hfits hs hvalid
    · case isFalse hinvalid => exact .invalid h hfits hs hinvalid
  · rw [load_of_breaks h hbreaks]
    exact .environment h hbreaks

theorem load_outcome (files : Files.Tree) (path : Option String) (env : Environment) :
    Outcome files path env (load files path env) := by
  cases path with
  | none =>
    have hentries : Supplies files none [] := rfl
    exact hentries.outcome env
  | some p =>
    cases hread : files.readText p with
    | error reason =>
      have hload : load files (some p) env = .error (.unreadable ⟨p, reason⟩) := by
        simp only [load, ofFile, hread]
      rw [hload]
      exact .unreadable rfl hread
    | ok text =>
      cases hdocument : ofDocument? text with
      | none =>
        have hload : load files (some p) env = .error (.unfit p) := by
          simp only [load, ofFile, hread, hdocument]
        rw [hload]
        exact .unfit rfl hread (ofDocument?_eq_none.mp hdocument)
      | some s =>
        obtain ⟨entries, hparse, hfits⟩ := exists_fits_of_ofDocument? hdocument
        have hentries : Supplies files (some p) entries := ⟨text, hread, hparse, hfits⟩
        exact hentries.outcome env

end

/-- How settings are resolved from a document and an environment. -/
structure Resolves (files : Files.Tree) (path : Option String) (env : Environment)
    (result : Except LoadError Settings) : Prop where
  /-- There are settings when the document can be read and is fit, what is set of the variables is
  fit, and what they come to violates nothing. -/
  accepted : ∀ s, result = .ok s ↔ ∃ entries, Supplies files path entries ∧
    env.FitsAll Variable.all ∧ (∀ i : Item, i.get s = i.resolved env entries) ∧ s.violations = []
  unreadable : ∀ e, result = .error (.unreadable e) ↔
    path = some e.path ∧ files.readText e.path = .error e.reason
  unfit : ∀ p, result = .error (.unfit p) ↔ path = some p ∧
    ∃ text, files.readText p = .ok text ∧ ∀ entries, Toml.parse text = some entries → ¬ Fits entries
  environment : ∀ e, result = .error (.environment e) ↔
    (∃ entries, Supplies files path entries) ∧ env.Breaks Variable.all e
  /-- The settings that are judged are those that would come out. -/
  invalid : ∀ found, result = .error (.invalid found) ↔ ∃ entries s, Supplies files path entries ∧
    env.FitsAll Variable.all ∧ (∀ i : Item, i.get s = i.resolved env entries) ∧
      found = s.violations ∧ found ≠ []
  switched : ∀ s address, result = .ok s → env Variable.metricsAddress.name = some address →
    s.observability.metricsEnabled = true ∧ s.observability.metricsAddress = address
  /-- What no variable names is left to the document. -/
  untouched : ∀ s entries (i : Item), result = .ok s → Supplies files path entries →
    i.setBy = none → i.get s = (i.given entries).getD (i.get {})
  /-- Of an item that is overridden it does not matter what a document has. -/
  overridden : ∀ files' path' entries entries', Supplies files path entries →
    Supplies files' path' entries' →
      (∀ i : Item, i.overriding env = none → i.given entries = i.given entries') →
        load files' path' env = result

/-- **The settings are resolved item by item, and judged as they come out.** -/
theorem load_resolves (files : Files.Tree) (path : Option String) (env : Environment) :
    Resolves files path env (load files path env) := by
  have houtcome := load_outcome files path env
  constructor
  case accepted =>
    intro s
    constructor
    · intro h
      rw [h] at houtcome
      cases houtcome with
      | accepted hentries hfits hitems hvalid => exact ⟨_, hentries, hfits, hitems, hvalid⟩
    · rintro ⟨entries, hentries, hfits, hitems, hvalid⟩
      obtain ⟨t, ht, hload⟩ := load_of_fitsAll hentries hfits
      obtain rfl := hentries.resolved_unique hentries hitems ht
      rw [hload, if_pos hvalid]
  case unreadable =>
    intro e
    constructor
    · intro h
      rw [h] at houtcome
      cases houtcome with
      | unreadable hpath hread => exact ⟨hpath, hread⟩
    · rintro ⟨rfl, hread⟩
      simp only [load, ofFile, hread]
  case unfit =>
    intro p
    constructor
    · intro h
      rw [h] at houtcome
      cases houtcome with
      | unfit hpath hread hunfit => exact ⟨hpath, _, hread, hunfit⟩
    · rintro ⟨rfl, text, hread, hunfit⟩
      simp only [load, ofFile, hread, ofDocument?_eq_none.mpr hunfit]
  case environment =>
    intro e
    constructor
    · intro h
      rw [h] at houtcome
      cases houtcome with
      | environment hentries hbreaks => exact ⟨⟨_, hentries⟩, hbreaks⟩
    · rintro ⟨⟨entries, hentries⟩, hbreaks⟩
      exact load_of_breaks hentries hbreaks
  case invalid =>
    intro found
    constructor
    · intro h
      rw [h] at houtcome
      cases houtcome with
      | invalid hentries hfits hitems hinvalid =>
        exact ⟨_, _, hentries, hfits, hitems, rfl, hinvalid⟩
    · rintro ⟨entries, s, hentries, hfits, hitems, rfl, hinvalid⟩
      obtain ⟨t, ht, hload⟩ := load_of_fitsAll hentries hfits
      obtain rfl := hentries.resolved_unique hentries hitems ht
      rw [hload, if_neg hinvalid]
  case switched =>
    intro s address h haddress
    rw [h] at houtcome
    cases houtcome with
    | accepted hentries hfits hitems hvalid =>
      have hset : Option.bind (some Variable.metricsAddress) (fun v => env v.name) = some address :=
        haddress
      have henabled := hitems .metricsEnabled
      have hmetrics := hitems .metricsAddress
      simp only [Item.resolved, Item.overriding, Item.setBy, hset] at henabled hmetrics
      exact ⟨henabled, hmetrics⟩
  case untouched =>
    intro s entries i h hentries hnone
    rw [h] at houtcome
    cases houtcome with
    | accepted hentries' hfits hitems hvalid =>
      cases hentries.unique hentries'
      rw [hitems i, Item.resolved, Item.overriding, hnone]
      rfl
  case overridden =>
    intro files' path' entries entries' hentries hentries' hsame
    -- where the environment is silent both documents say the same
    have hresolved : ∀ i : Item, i.resolved env entries' = i.resolved env entries := by
      intro i
      rw [Item.resolved, Item.resolved]
      cases hi : i.overriding env with
      | none => rw [hsame i hi]
      | some content => rfl
    rcases fitsAll_or_breaks env with hfits | ⟨e, hbreaks⟩
    · obtain ⟨s, hs, hload⟩ := load_of_fitsAll hentries hfits
      obtain ⟨t, ht, hload'⟩ := load_of_fitsAll hentries' hfits
      have hst : s = t := eq_of_items fun i => by rw [hs i, ht i, hresolved i]
      rw [hload, hload', hst]
    · rw [load_of_breaks hentries hbreaks, load_of_breaks hentries' hbreaks]

end EventIntake.Settings
