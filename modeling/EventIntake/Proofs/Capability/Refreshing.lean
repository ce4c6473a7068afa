import EventIntake.Capability.Refresh
import EventIntake.Proofs.Lists

/-!
# The loop that keeps an index fresh

While time passes the loop begins lists and takes their answers.  Its source tells when each list
was begun and how it was answered, so what was answered at an instant can be said without the loop.

At most one list is under way.  It is the last one, and the ones before it were answered before the
next was begun (`Refresh.Keeps`), so the index shows the latest list that went well of those that
were answered (`Refresh.Keeps.answered_iff`).
-/

namespace EventIntake.Capability

/-! ## Lists and their answers -/

namespace Source

/-- List `n` was begun, and its answer had come by `now`. -/
def Answered (s : Source) (now n : Nat) : Prop :=
  ∃ t d, s.asked[n]? = some t ∧ (s.answers n).delay = some d ∧ t + d.millis ≤ now

theorem Answered.mono {s s' : Source} {now now' n : Nat} (h : s.Answered now n)
    (hasked : s.asked <+: s'.asked) (hanswers : s'.answers = s.answers) (hnow : now ≤ now') :
    s'.Answered now' n := by
  obtain ⟨t, d, ht, hd, hcome⟩ := h
  refine ⟨t, d, ?_, by rw [hanswers, hd], by omega⟩
  obtain ⟨hlt, rfl⟩ := List.getElem?_eq_some_iff.mp ht
  exact List.prefix_iff_getElem?.mp hasked n hlt

/-- Of the first `count` lists `n` is the last that went well. -/
structure IsLatest (s : Source) (count n : Nat) (items : List EventType) : Prop where
  lt : n < count
  result : (s.answers n).result = .ok items
  failed : ∀ m, n < m → m < count → ∃ e, (s.answers m).result = .error e

/-- A list is begun only when the one before was answered, and no sooner than a period, less five
milliseconds, after that one was begun. -/
def Paced (s : Source) (period : Duration) : Prop :=
  ∀ (n t next : Nat), s.asked[n]? = some t → s.asked[n + 1]? = some next →
    (∃ d, (s.answers n).delay = some d ∧ t + d.millis ≤ next) ∧
      t * 1000000 + period.nanos ≤ next * 1000000 + 5000000

variable {s : Source} {period : Duration} {now n t u : Nat}

theorem asked_list_cases (h : (s.list now).1.asked[n]? = some u) :
    s.asked[n]? = some u ∨ n = s.asked.length ∧ u = now := by
  rw [asked_list] at h
  exact getElem?_concat_cases h

theorem lt_of_asked (h : s.asked[n]? = some u) : n < s.asked.length :=
  (List.getElem?_eq_some_iff.mp h).1

theorem Paced.list (h : s.Paced period) (hlength : s.asked.length = n + 1)
    (hlatest : s.asked[n]? = some t) (hanswered : s.Answered now n)
    (hnext : t * 1000000 + period.nanos ≤ now * 1000000 + 5000000) :
    (s.list now).1.Paced period := by
  intro m u v hu hv
  rcases asked_list_cases hv with hold | ⟨hm, rfl⟩
  · rcases asked_list_cases hu with hu | ⟨hm, -⟩
    · exact h m u v hu hold
    · have hlt := lt_of_asked hold
      omega
  · obtain rfl : m = n := by omega
    rcases asked_list_cases hu with hu | ⟨hm', -⟩
    · obtain rfl : u = t := Option.some.inj (hu.symm.trans hlatest)
      obtain ⟨u', d, hu', hd, hcome⟩ := hanswered
      obtain rfl : u' = u := Option.some.inj (hu'.symm.trans hlatest)
      exact ⟨⟨d, hd, hcome⟩, hnext⟩
    · omega

end Source

namespace Cache

@[simp] theorem now_update (c : Cache) (result : Except SourceError (List EventType)) :
    (c.update result).now = c.now := by
  cases result <;> rfl

@[simp] theorem source_update (c : Cache) (result : Except SourceError (List EventType)) :
    (c.update result).source = c.source := by
  cases result <;> rfl

/-- The cache `c'` can be one that `c` has become: nothing that was asked is forgotten. -/
structure Later (c c' : Cache) : Prop where
  now : c.now ≤ c'.now
  asked : c.source.asked <+: c'.source.asked
  answers : c'.source.answers = c.source.answers

theorem Later.refl (c : Cache) : c.Later c := ⟨Nat.le_refl _, List.prefix_refl _, rfl⟩

theorem Later.trans {c c' c'' : Cache} (h : c.Later c') (h' : c'.Later c'') : c.Later c'' :=
  ⟨Nat.le_trans h.now h'.now, h.asked.trans h'.asked, h'.answers.trans h.answers⟩

end Cache

namespace Refresh

def AtRest (c : Cache) (r : Refresh) : Prop :=
  ∀ due result, r.activity = .listing (some due) result → c.now < due

/-- How many lists were answered, when `last` is the number of the latest. -/
def answered (r : Refresh) (last : Nat) : Nat :=
  match r.activity with
  | .listing _ _ => last
  | .waiting | .ended => last + 1

/-- The loop and its cache when list number `last` is the latest, and was begun at `t`. -/
structure Keeps (period : Duration) (last t : Nat) (c : Cache) (r : Refresh) : Prop where
  length : c.source.asked.length = last + 1
  latest : c.source.asked[last]? = some t
  begun : ∀ (n u : Nat), c.source.asked[n]? = some u → u ≤ c.now
  paced : c.source.Paced period
  regular : r.ticker.period = period
  next : t * 1000000 + period.nanos ≤ r.ticker.due + 5000000
  underWay : ∀ due result, r.activity = .listing due result →
    due = (c.source.answers last).delay.map (t + ·.millis) ∧
      result = (c.source.answers last).result
  finished : (∀ due result, r.activity ≠ .listing due result) → c.source.Answered c.now last
  shown : ∃ n items, c.source.IsLatest (r.answered last) n items ∧ c.index = .ofList items
  stopping : r.stopping = true → r.activity ≠ .waiting

variable {period : Duration} {last t limit : Nat} {c : Cache} {r : Refresh}

theorem answered_of_not_listing (h : ∀ due result, r.activity ≠ .listing due result) :
    r.answered last = last + 1 := by
  rw [answered]
  cases hactivity : r.activity with
  | waiting => rfl
  | listing due result => exact absurd hactivity (h due result)
  | ended => rfl

theorem settle_not_listing (r : Refresh) (due : Option Nat)
    (result : Except SourceError (List EventType)) : r.settle.activity ≠ .listing due result := by
  rw [settle]
  cases r.stopping <;> simp

theorem stop_listing (r : Refresh) {due : Option Nat}
    {result : Except SourceError (List EventType)} :
    r.stop.activity = .listing due result ↔ r.activity = .listing due result := by
  rw [stop]
  cases r.activity <;> simp

theorem stop_not_waiting (r : Refresh) : r.stop.activity ≠ .waiting := by
  rw [stop]
  cases r.activity <;> simp

theorem answered_stop (r : Refresh) (last : Nat) : r.stop.answered last = r.answered last := by
  rw [answered, answered, stop]
  cases r.activity <;> rfl

/-! ## The steps of the loop -/

/-- **What each step of the loop keeps is kept while time passes.**  At the end nothing is due any
more. -/
theorem advance_induct {P Q : Cache → Refresh → Prop}
    (hask : ∀ c r now, P c r → r.activity = .waiting → now = max c.now r.ticker.instant →
      now ≤ limit →
      P { c with now, source := (c.source.list now).1 } (r.ask now (c.source.list now).2))
    (hsettle : ∀ c r due result, P c r → r.activity = .listing (some due) result → due ≤ limit →
      P ({ c with now := max c.now due }.update result) r.settle)
    (hidle : ∀ c r, P c r → (∀ due result, r.activity = .listing (some due) result → limit < due) →
      Q { c with now := max c.now limit } r) (h : P c r) :
    Q (r.advance limit c).1 (r.advance limit c).2 := by
  fun_induction Refresh.advance limit c r with
  | case1 c r hActivity now hDue source response hlist ih =>
    have hstep := hask c r now h hActivity rfl hDue
    rw [hlist] at hstep
    exact ih hstep
  | case2 c r idle hActivity now hLate =>
    apply hidle c r h
    intro due result hlisting
    cases hActivity.symm.trans hlisting
  | case3 c r due result hActivity hDue ih => exact ih (hsettle c r due result h hActivity hDue)
  | case4 c r idle due result hActivity hLate =>
    apply hidle c r h
    intro due' result' hlisting
    cases hActivity.symm.trans hlisting
    omega
  | case5 c r idle result hActivity =>
    apply hidle c r h
    intro due result' hlisting
    cases hActivity.symm.trans hlisting
  | case6 c r idle hActivity =>
    apply hidle c r h
    intro due result hlisting
    cases hActivity.symm.trans hlisting

namespace Keeps

theorem ask (k : Keeps period last t c r) (hwaiting : r.activity = .waiting) {now : Nat}
    (hnow : now = max c.now r.ticker.instant) :
    Keeps period (last + 1) now { c with now, source := (c.source.list now).1 }
      (r.ask now (c.source.list now).2) := by
  have hle : c.now ≤ now := by omega
  have hdue : r.ticker.due ≤ now * 1000000 := by
    have hinstant : r.ticker.instant ≤ now := by omega
    exact Nat.le_trans r.ticker.due_le_instant (Nat.mul_le_mul_right _ hinstant)
  have hlength := k.length
  constructor
  case length =>
    show (c.source.asked ++ [now]).length = last + 1 + 1
    rw [List.length_append, List.length_singleton, hlength]
  case latest =>
    show (c.source.asked ++ [now])[last + 1]? = some now
    rw [← hlength, List.getElem?_concat_length]
  case begun =>
    intro n u hu
    rcases Source.asked_list_cases hu with hold | ⟨-, rfl⟩
    · exact Nat.le_trans (k.begun n u hold) hle
    · exact Nat.le_refl u
  case paced =>
    -- the list before is over, or the loop would not have waited
    have hanswered := k.finished (by simp [hwaiting])
    have hnext := k.next
    exact k.paced.list hlength k.latest (hanswered.mono (List.prefix_refl _) rfl hle) (by omega)
  case regular => exact k.regular
  case next =>
    have hnext := r.ticker.le_due_tick now
    rwa [k.regular] at hnext
  case underWay =>
    intro due result hlisting
    cases hlisting
    exact ⟨by rw [Source.list, hlength], by rw [Source.list, hlength]⟩
  case finished =>
    intro hnot
    exact absurd rfl (hnot _ _)
  case shown =>
    obtain ⟨n, items, hn, hindex⟩ := k.shown
    refine ⟨n, items, ?_, hindex⟩
    rw [answered, hwaiting] at hn
    exact ⟨hn.lt, hn.result, hn.failed⟩
  case stopping => exact fun _ h => nomatch h

theorem settle (k : Keeps period last t c r) {due : Nat}
    {result : Except SourceError (List EventType)}
    (hlisting : r.activity = .listing (some due) result) :
    Keeps period last t ({ c with now := max c.now due }.update result) r.settle := by
  obtain ⟨hdue, rfl⟩ := k.underWay (some due) result hlisting
  obtain ⟨d, hd, rfl⟩ := Option.map_eq_some_iff.mp hdue.symm
  have hanswered : r.answered last = last := by rw [answered, hlisting]
  constructor
  case length => simpa using k.length
  case latest => simpa using k.latest
  case begun =>
    intro n u hu
    rw [Cache.source_update] at hu
    have hbegun := k.begun n u hu
    rw [Cache.now_update]
    show u ≤ max c.now (t + d.millis)
    omega
  case paced => simpa using k.paced
  case regular => exact k.regular
  case next => exact k.next
  case underWay => exact fun due result h => absurd h (r.settle_not_listing due result)
  case finished =>
    intro _
    rw [Cache.source_update, Cache.now_update]
    exact ⟨t, d, k.latest, hd, Nat.le_max_right _ _⟩
  case shown =>
    rw [answered_of_not_listing r.settle_not_listing, Cache.source_update]
    obtain ⟨n, items, hn, hindex⟩ := k.shown
    rw [hanswered] at hn
    cases hresult : (c.source.answers last).result with
    | ok found => exact ⟨last, found, ⟨Nat.lt_succ_self last, hresult, by omega⟩, rfl⟩
    | error e =>
      refine ⟨n, items, ⟨Nat.lt_succ_of_lt hn.lt, hn.result, ?_⟩, hindex⟩
      intro m hnm hm
      by_cases hlast : m = last
      · exact ⟨e, hlast ▸ hresult⟩
      · exact hn.failed m hnm (by omega)
  case stopping =>
    intro hstopping
    have hended : r.settle.activity = .ended := if_pos hstopping
    rw [hended]
    exact nofun

theorem wait (k : Keeps period last t c r) {now : Nat} (hnow : c.now ≤ now) :
    Keeps period last t { c with now } r :=
  { k with
    begun := fun n u hu => Nat.le_trans (k.begun n u hu) hnow
    finished := fun hnot => (k.finished hnot).mono (List.prefix_refl _) rfl hnow }

theorem stop (k : Keeps period last t c r) : Keeps period last t c r.stop :=
  { k with
    underWay := fun due result h => k.underWay due result (r.stop_listing.mp h)
    finished := fun hnot => k.finished fun due result h => hnot due result (r.stop_listing.mpr h)
    shown := by
      rw [r.answered_stop]
      exact k.shown
    stopping := fun _ => r.stop_not_waiting }

theorem advance (k : Keeps period last t c r) (hlimit : c.now ≤ limit) :
    ∃ last t, Keeps period last t (r.advance limit c).1 (r.advance limit c).2 ∧
      (r.advance limit c).2.AtRest (r.advance limit c).1 := by
  apply advance_induct (P := fun c r => c.now ≤ limit ∧ ∃ last t, Keeps period last t c r)
    (Q := fun c r => ∃ last t, Keeps period last t c r ∧ r.AtRest c)
  · rintro c r now ⟨-, last, t, k⟩ hwaiting hnow hle
    exact ⟨hle, last + 1, now, k.ask hwaiting hnow⟩
  · rintro c r due result ⟨hle, last, t, k⟩ hlisting hdue
    refine ⟨?_, last, t, k.settle hlisting⟩
    rw [Cache.now_update]
    exact Nat.max_le.mpr ⟨hle, hdue⟩
  · rintro c r ⟨hle, last, t, k⟩ hlate
    refine ⟨last, t, k.wait (Nat.le_max_left _ _), ?_⟩
    intro due result hlisting
    rw [Nat.max_eq_right hle]
    exact hlate due result hlisting
  · exact ⟨hlimit, last, t, k⟩

theorem answered_iff (k : Keeps period last t c r) (hrest : r.AtRest c) (n : Nat) :
    c.source.Answered c.now n ↔ n < r.answered last := by
  constructor
  case mp =>
    rintro ⟨u, d, hu, hd, hcome⟩
    have hn : n < last + 1 := by
      rw [← k.length]
      exact Source.lt_of_asked hu
    cases hactivity : r.activity with
    | waiting => rwa [answered, hactivity]
    | ended => rwa [answered, hactivity]
    | listing due result =>
      rw [answered, hactivity]
      show n < last
      by_contra hlast
      obtain rfl : n = last := by omega
      obtain rfl : u = t := Option.some.inj (hu.symm.trans k.latest)
      have hdue : due = some (u + d.millis) := by
        rw [(k.underWay due result hactivity).1, hd, Option.map_some]
      rw [hdue] at hactivity
      exact Nat.not_lt.mpr hcome (hrest _ result hactivity)
  case mpr =>
    intro hn
    have hle : r.answered last ≤ last + 1 := by
      rw [answered]
      cases r.activity <;> simp
    by_cases hlast : n = last
    · subst hlast
      apply k.finished
      intro due result hlisting
      rw [answered, hlisting] at hn
      exact Nat.lt_irrefl n hn
    · have hlength := k.length
      obtain ⟨u, hu⟩ : ∃ u, c.source.asked[n]? = some u :=
        ⟨_, List.getElem?_eq_getElem (by omega)⟩
      obtain ⟨v, hv⟩ : ∃ v, c.source.asked[n + 1]? = some v :=
        ⟨_, List.getElem?_eq_getElem (by omega)⟩
      obtain ⟨⟨d, hd, hcome⟩, -⟩ := k.paced n u v hu hv
      exact ⟨u, d, hu, hd, Nat.le_trans hcome (k.begun (n + 1) v hv)⟩

end Keeps

theorem advance_later (r : Refresh) (limit : Nat) (c : Cache) :
    c.Later (r.advance limit c).1 := by
  apply advance_induct (P := fun c' _ => c.Later c') (Q := fun c' _ => c.Later c')
  · intro c' r now h hwaiting hnow hle
    refine h.trans ⟨?_, List.prefix_append _ _, rfl⟩
    show c'.now ≤ now
    omega
  · intro c' r due result h hlisting hdue
    refine h.trans ⟨?_, ?_, ?_⟩
    · rw [Cache.now_update]
      exact Nat.le_max_left _ _
    · simp only [Cache.source_update, List.prefix_refl]
    · rw [Cache.source_update]
  · intro c' r h hlate
    exact h.trans ⟨Nat.le_max_left _ _, List.prefix_refl _, rfl⟩
  · exact Cache.Later.refl c

theorem AtRest.le_end (h : r.AtRest c) {due : Nat} (hend : r.end? c.now = some due) :
    c.now ≤ due := by
  rw [end?] at hend
  cases hactivity : r.activity with
  | listing arrives result =>
    rw [hactivity] at hend
    obtain rfl : arrives = some due := hend
    exact Nat.le_of_lt (h due result hactivity)
  | waiting =>
    rw [hactivity] at hend
    exact Nat.le_of_eq (Option.some.inj hend)
  | ended =>
    rw [hactivity] at hend
    exact Nat.le_of_eq (Option.some.inj hend)

/-- The loop was told to stop, and is past the point where it could begin a list. -/
def Stopped (r : Refresh) : Prop := r.stopping = true ∧ r.activity ≠ .waiting

theorem stopped_stop (r : Refresh) : r.stop.Stopped := ⟨rfl, r.stop_not_waiting⟩

theorem Stopped.advance (h : r.Stopped) (limit : Nat) (c : Cache) :
    (r.advance limit c).2.Stopped ∧ (r.advance limit c).1.source = c.source := by
  apply advance_induct (P := fun c' r' => r'.Stopped ∧ c'.source = c.source)
    (Q := fun c' r' => r'.Stopped ∧ c'.source = c.source)
  · rintro c' r' now ⟨⟨-, hnot⟩, -⟩ hwaiting
    exact absurd hwaiting hnot
  · rintro c' r' due result ⟨⟨hstopping, -⟩, hsource⟩ - -
    have hended : r'.settle.activity = .ended := if_pos hstopping
    refine ⟨⟨hstopping, ?_⟩, ?_⟩
    · rw [hended]
      exact nofun
    · rw [Cache.source_update]
      exact hsource
  · rintro c' r' h -
    exact h
  · exact ⟨h, rfl⟩

end Refresh

end EventIntake.Capability
