import EventIntake.Capability.ControlPlane
import EventIntake.Capability.Informer
import EventIntake.Proofs.Capability.Refreshing

/-!
# What a started informer shows

An informer that was started is followed while time passes, and it may be closed at any instant.
Whatever its source answers, and however late, some laws hold at every instant (`Informer.Fresh`):
it shows the latest list that went well, as a whole; lists do not overlap and keep their distance;
and from a close on no list is begun, so only the one that is under way can still come.
-/

namespace EventIntake.Capability

/-! ## Documents with an item that is not one -/

/-- A document lists an item that does not fit. -/
def Spoiled (document : ByteArray) : Prop :=
  ∃ v items, Json.ofBytes? document = some v ∧
    recordFields? ["items"] v = some [some (.array items)] ∧ ∃ item ∈ items, eventType? item = none

theorem mapM_eventType?_eq_none {items : List Json.Value} {item : Json.Value} (hmem : item ∈ items)
    (hitem : eventType? item = none) : items.mapM eventType? = none := by
  induction items with
  | nil => cases hmem
  | cons first rest ih =>
    rw [List.mapM_cons]
    rcases List.mem_cons.mp hmem with rfl | hrest
    · rw [hitem]
      rfl
    · rw [ih hrest]
      cases eventType? first <;> rfl

theorem listing?_of_spoiled {document : ByteArray} (h : Spoiled document) :
    listing? document = none := by
  obtain ⟨v, items, hv, hitems, item, hmem, hitem⟩ := h
  rw [listing?, hv, Option.bind_some, eventTypes?, hitems]
  exact mapM_eventType?_eq_none hmem hitem

/-- One item that does not fit makes a list fail, whatever its status. -/
theorem ControlPlane.list_of_spoiled (plane : ControlPlane) (status : Nat) {body : ByteArray}
    (h : Spoiled body) : ∃ e, plane.list (.answer status body) = .error e := by
  unfold ControlPlane.list
  cases plane.obstacle? with
  | some reason => exact ⟨_, rfl⟩
  | none =>
    simp only [listing?_of_spoiled h]
    split
    · exact ⟨_, rfl⟩
    · split <;> exact ⟨_, rfl⟩

/-! ## Started informers -/

theorem Acquisition.ofResponse_eq_available {α : Type} {limit : Duration} {r : Response α}
    {value : α} {time : Nat} (h : ofResponse limit r = (.available value, time)) :
    r.result = .ok value ∧ ∃ d, r.delay = some d ∧ d.millis = time := by
  obtain ⟨delay, result⟩ := r
  cases delay with
  | none => cases h
  | some d =>
    by_cases hd : d.millis ≤ limit.millis
    · rw [ofResponse] at h
      simp only [hd, if_true] at h
      match result with
      | .ok found =>
        cases h
        exact ⟨rfl, d, rfl, rfl⟩
      | .error (.permission reason) => cases h
      | .error (.failed reason) => cases h
    · rw [ofResponse] at h
      simp only [hd] at h
      cases h

namespace Informer

/-- What can come of a started informer.  An instant at which a close still waits is one at which a
close with less patience ends. -/
inductive Move where
  | sleep (time : Duration)
  | close (patience : Duration)

def move (i : Informer) : Move → Informer
  | .sleep time => i.sleep time
  | .close patience => (i.close patience).1

def run (i : Informer) (moves : List Move) : Informer := moves.foldl move i

structure Running (period : Duration) (i : Informer) (r : Refresh) : Prop where
  loop : i.loop = some r
  keeps : ∃ last t, Refresh.Keeps period last t i.cache r
  atRest : r.AtRest i.cache

structure Course (period : Duration) (i : Informer) (r : Refresh) (i' : Informer) (r' : Refresh) :
    Prop where
  running : Running period i' r'
  later : i.cache.Later i'.cache
  stopped : r.Stopped → r'.Stopped ∧ i'.cache.source = i.cache.source

variable {period : Duration} {i i' i'' : Informer} {r r' r'' : Refresh}

theorem Course.trans (h : Course period i r i' r') (h' : Course period i' r' i'' r'') :
    Course period i r i'' r'' where
  running := h'.running
  later := h.later.trans h'.later
  stopped hstopped :=
    have hmiddle := h.stopped hstopped
    have hlast := h'.stopped hmiddle.1
    ⟨hlast.1, hlast.2.trans hmiddle.2⟩

namespace Running

theorem refl (h : Running period i r) : Course period i r i r :=
  ⟨h, .refl _, fun hstopped => ⟨hstopped, rfl⟩⟩

theorem advance (h : Running period i r) {limit : Nat} (hlimit : i.cache.now ≤ limit) :
    ∃ r', Course period i r (i.advance limit) r' := by
  obtain ⟨last, t, k⟩ := h.keeps
  obtain ⟨last', t', hkeeps, hrest⟩ := k.advance hlimit
  have hadvance : i.advance limit =
      ⟨(r.advance limit i.cache).1, some (r.advance limit i.cache).2⟩ := by
    rw [Informer.advance, h.loop]
  rw [hadvance]
  refine ⟨(r.advance limit i.cache).2, ⟨rfl, ⟨last', t', hkeeps⟩, hrest⟩, ?_, ?_⟩
  · exact r.advance_later limit i.cache
  · exact fun hstopped => hstopped.advance limit i.cache

theorem stop (h : Running period i r) : Running period { i with loop := some r.stop } r.stop where
  loop := rfl
  keeps := by
    obtain ⟨last, t, k⟩ := h.keeps
    exact ⟨last, t, k.stop⟩
  atRest := fun due result hlisting => h.atRest due result (r.stop_listing.mp hlisting)

theorem close_of_stopping (h : Running period i r) (hstopping : r.stopping = true)
    (patience : Duration) : (i.close patience).1 = i := by
  rw [Informer.close, h.loop]
  exact congrArg Prod.fst (if_pos hstopping)

theorem close_of_not_stopping (h : Running period i r) (hstopping : ¬ r.stopping = true)
    (patience : Duration) : ∃ limit, i.cache.now ≤ limit ∧
      (i.close patience).1 = ({ i with loop := some r.stop } : Informer).advance limit := by
  have hpatience : i.cache.now ≤ i.cache.now + patience.millis := Nat.le_add_right _ _
  rw [Informer.close, h.loop]
  simp only [hstopping]
  cases hend : r.end? i.cache.now with
  | none => exact ⟨_, hpatience, rfl⟩
  | some due =>
    by_cases hdue : due ≤ i.cache.now + patience.millis
    · simp only [hdue, if_true]
      exact ⟨due, h.atRest.le_end hend, rfl⟩
    · simp only [hdue]
      exact ⟨_, hpatience, rfl⟩

/-- From the moment of a close on no list is begun, however the close ends. -/
theorem close (h : Running period i r) (patience : Duration) :
    ∃ r', Course period i r (i.close patience).1 r' ∧ r'.Stopped ∧
      (i.close patience).1.cache.source = i.cache.source := by
  by_cases hstopping : r.stopping = true
  · obtain ⟨last, t, k⟩ := h.keeps
    rw [h.close_of_stopping hstopping]
    exact ⟨r, h.refl, ⟨hstopping, k.stopping hstopping⟩, rfl⟩
  · obtain ⟨limit, hlimit, hclose⟩ := h.close_of_not_stopping hstopping patience
    rw [hclose]
    obtain ⟨r', hcourse⟩ := h.stop.advance hlimit
    have hstopped := hcourse.stopped r.stopped_stop
    exact ⟨r', ⟨hcourse.running, hcourse.later, fun _ => hstopped⟩, hstopped⟩

theorem move (h : Running period i r) (m : Move) : ∃ r', Course period i r (i.move m) r' := by
  cases m with
  | sleep time => exact h.advance (Nat.le_add_right _ _)
  | close patience =>
    obtain ⟨r', hcourse, -⟩ := h.close patience
    exact ⟨r', hcourse⟩

theorem run (h : Running period i r) (moves : List Move) :
    ∃ r', Course period i r (i.run moves) r' := by
  induction moves generalizing i r with
  | nil => exact ⟨r, h.refl⟩
  | cons m rest ih =>
    obtain ⟨middle, hfirst⟩ := h.move m
    obtain ⟨r', hrest⟩ := ih hfirst.running
    exact ⟨r', hfirst.trans hrest⟩

end Running

/-! ## What is shown -/

def Answered (i : Informer) (n : Nat) : Prop := i.cache.source.Answered i.cache.now n

def Arrives (i i' : Informer) (n : Nat) : Prop := i'.Answered n ∧ ¬ i.Answered n

/-- List `n` is shown, as a whole: it went well, and none that was answered after it did. -/
structure Shows (i : Informer) (n : Nat) (items : List EventType) : Prop where
  answered : i.Answered n
  result : (i.cache.source.answers n).result = .ok items
  failed : ∀ m, n < m → i.Answered m → ∃ e, (i.cache.source.answers m).result = .error e
  index : i.index = .ofList items

/-- What holds of a started informer at any instant, with the answers of its source.  The moves are
all that may come then. -/
structure Fresh (answers : Nat → Response (List EventType)) (period : Duration) (i : Informer) :
    Prop where
  source : i.cache.source.answers = answers
  shows : ∃ n items, i.Shows n items
  /-- Errors, and documents with an item that does not fit, leave the index as it was. -/
  kept : ∀ moves, (∀ n, i.Arrives (i.run moves) n →
    (∃ e, (answers n).result = .error e) ∨
      ∃ plane status body, (answers n).result = ControlPlane.list plane (.answer status body) ∧
        Spoiled body) →
    (i.run moves).index = i.index
  paced : i.cache.source.Paced period
  alone : ∀ n, n < i.cache.source.asked.length → ¬ i.Answered n →
    n + 1 = i.cache.source.asked.length
  /-- From a close on no list is begun, whatever its patience. -/
  closed : ∀ patience moves,
    ((i.close patience).1.run moves).cache.source.asked = i.cache.source.asked
  leftOver : ∀ patience moves n, i.Arrives ((i.close patience).1.run moves) n →
    n + 1 = i.cache.source.asked.length

theorem Course.answered (h : Course period i r i' r') {n : Nat} (hn : i.Answered n) :
    i'.Answered n :=
  hn.mono h.later.asked h.later.answers h.later.now

/-- What is shown changes only when an answer comes that goes well. -/
theorem Course.index_eq (h : Course period i r i' r') {n n' : Nat} {items items' : List EventType}
    (hshows : i.Shows n items) (hshows' : i'.Shows n' items')
    (hfailed : ∀ m, i.Arrives i' m → ∃ e, (i.cache.source.answers m).result = .error e) :
    i'.index = i.index := by
  have hanswers := h.later.answers
  have hresult' := hshows'.result
  rw [hanswers] at hresult'
  -- what is shown then has been answered before
  have hbefore : i.Answered n' := by
    by_contra hnot
    obtain ⟨e, he⟩ := hfailed n' ⟨hshows'.answered, hnot⟩
    cases hresult'.symm.trans he
  rcases Nat.lt_trichotomy n n' with hlt | rfl | hlt
  · obtain ⟨e, he⟩ := hshows.failed n' hlt hbefore
    cases hresult'.symm.trans he
  · cases hresult'.symm.trans hshows.result
    rw [hshows'.index, hshows.index]
  · obtain ⟨e, he⟩ := hshows'.failed n hlt (h.answered hshows.answered)
    rw [hanswers] at he
    cases hshows.result.symm.trans he

namespace Running

theorem shows (h : Running period i r) : ∃ n items, i.Shows n items := by
  obtain ⟨last, t, k⟩ := h.keeps
  obtain ⟨n, items, hn, hindex⟩ := k.shown
  have hanswered := k.answered_iff h.atRest
  exact ⟨n, items, (hanswered n).mpr hn.lt, hn.result,
    fun m hnm hm => hn.failed m hnm ((hanswered m).mp hm), hindex⟩

theorem alone (h : Running period i r) {n : Nat} (hn : n < i.cache.source.asked.length)
    (hnot : ¬ i.Answered n) : n + 1 = i.cache.source.asked.length := by
  obtain ⟨last, t, k⟩ := h.keeps
  have hlength := k.length
  have hlast : last ≤ r.answered last := by
    rw [Refresh.answered]
    cases r.activity <;> simp
  have hge : ¬ n < r.answered last := fun hlt => hnot ((k.answered_iff h.atRest n).mpr hlt)
  omega

theorem fresh (h : Running period i r) : Fresh i.cache.source.answers period i where
  source := rfl
  shows := h.shows
  kept := by
    intro moves hfailed
    obtain ⟨r', hcourse⟩ := h.run moves
    obtain ⟨n, items, hshows⟩ := h.shows
    obtain ⟨n', items', hshows'⟩ := hcourse.running.shows
    apply hcourse.index_eq hshows hshows'
    intro m hm
    rcases hfailed m hm with he | ⟨plane, status, body, hresult, hspoiled⟩
    · exact he
    · rw [hresult]
      exact plane.list_of_spoiled status hspoiled
  paced := by
    obtain ⟨last, t, k⟩ := h.keeps
    exact k.paced
  alone := fun n hn hnot => h.alone hn hnot
  closed := by
    intro patience moves
    obtain ⟨r', hclose, hstopped, hsource⟩ := h.close patience
    obtain ⟨r'', hrest⟩ := hclose.running.run moves
    rw [(hrest.stopped hstopped).2, hsource]
  leftOver := by
    rintro patience moves n ⟨⟨t, d, ht, -⟩, hnot⟩
    obtain ⟨r', hclose, hstopped, hsource⟩ := h.close patience
    obtain ⟨r'', hrest⟩ := hclose.running.run moves
    rw [(hrest.stopped hstopped).2, hsource] at ht
    exact h.alone (Source.lt_of_asked ht) hnot

end Running

/-! ## Starts that succeed -/

/-- The informer that an untouched source gives when its first list goes well, within a limit or
without one. -/
inductive Started (answers : Nat → Response (List EventType)) (period : Duration)
    (positive : 0 < period.nanos) : Informer → Prop
  | start {i : Informer} :
      (ofSource { answers }).start period positive = (i, some (.ok ())) →
        Started answers period positive i
  | acquire {i : Informer} (limit : Duration) :
      (ofSource { answers }).acquire limit period positive = (i, .available ()) →
        Started answers period positive i

variable {answers : Nat → Response (List EventType)} {positive : 0 < period.nanos}

/-- The list that a start waited for is the first that is shown. -/
theorem running_follow {d : Duration} {items : List EventType}
    (hsource : i.cache.source = ⟨answers, [0]⟩) (hnow : i.cache.now = d.millis)
    (hdelay : (answers 0).delay = some d) (hresult : (answers 0).result = .ok items) :
    Running period (i.follow period positive items)
      { ticker := .starting period positive d.millis } := by
  obtain ⟨⟨now, source, index, journal⟩, loop⟩ := i
  obtain rfl : source = ⟨answers, [0]⟩ := hsource
  obtain rfl : now = d.millis := hnow
  refine ⟨rfl, ⟨0, 0, ?_⟩, nofun⟩
  constructor
  case length => rfl
  case latest => rfl
  case begun =>
    intro n u hu
    have hzero : u = 0 := List.mem_singleton.mp (List.mem_of_getElem? hu)
    rw [hzero]
    exact Nat.zero_le _
  case paced =>
    intro n t next ht hnext
    exact absurd (Source.lt_of_asked hnext) (by simp [follow])
  case regular => rfl
  case next =>
    show 0 * 1000000 + period.nanos ≤ d.millis * 1000000 + period.nanos + 5000000
    omega
  case underWay => exact nofun
  case finished =>
    intro _
    exact ⟨0, d, rfl, hdelay, Nat.le_of_eq (Nat.zero_add _)⟩
  case shown =>
    refine ⟨0, items, ⟨Nat.zero_lt_one, hresult, ?_⟩, rfl⟩
    intro m hm hlt
    have hone : m < 1 := hlt
    omega
  case stopping => exact nofun

theorem Running.record (h : Running period i r) (journal : Journal) :
    Running period { i with cache := { i.cache with journal } } r where
  loop := h.loop
  keeps := by
    obtain ⟨last, t, k⟩ := h.keeps
    exact ⟨last, t, { k with }⟩
  atRest := h.atRest

theorem Started.running (h : Started answers period positive i) :
    ∃ r, Running period i r ∧ i.cache.source.answers = answers := by
  have hask : (ofSource { answers }).ask =
      (⟨{ source := ⟨answers, [0]⟩ }, none⟩, answers 0) := rfl
  have hwait : ∀ time, ((⟨{ source := ⟨answers, [0]⟩ }, none⟩ : Informer).wait time).cache.now =
      time := Nat.zero_add
  cases h with
  | start h =>
    rw [Informer.start, hask] at h
    match hdelay : (answers 0).delay, hresult : (answers 0).result with
    | none, _ =>
      simp only [hdelay] at h
      cases h
    | some d, .error e =>
      simp only [hdelay, hresult] at h
      cases h
    | some d, .ok items =>
      simp only [hdelay, hresult] at h
      cases h
      exact ⟨_, running_follow rfl (hwait d.millis) hdelay hresult, rfl⟩
  | acquire limit h =>
    rw [Informer.acquire, hask] at h
    match hresponse : Acquisition.ofResponse limit (answers 0) with
    | (.available items, time) =>
      simp only [hresponse] at h
      obtain ⟨hresult, d, hdelay, rfl⟩ := Acquisition.ofResponse_eq_available hresponse
      cases h
      exact ⟨_, (running_follow rfl (hwait d.millis) hdelay hresult).record _, rfl⟩
    | (.denied reason, time) =>
      simp only [hresponse] at h
      cases h
    | (.unavailable reason, time) =>
      simp only [hresponse] at h
      cases h
    | (.timedOut _, time) =>
      simp only [hresponse] at h
      cases h

/-- **What an informer that was started shows, at every instant, is the latest list that went
well.** -/
theorem run_fresh (h : Started answers period positive i) (moves : List Move) :
    Fresh answers period (i.run moves) := by
  obtain ⟨r, hrunning, hanswers⟩ := h.running
  obtain ⟨r', hcourse⟩ := hrunning.run moves
  rw [← hanswers, ← hcourse.later.answers]
  exact hcourse.running.fresh

/-- A source that goes down after its first list, and then does not even answer. -/
def goingDown : Nat → Response (List EventType)
  | 0 => ⟨some (.ofMillis 20), .ok [⟨"orders", "created", "dev.orders.created"⟩]⟩
  | 1 => ⟨some (.ofSecs 45), .error (.failed "503 Service Unavailable")⟩
  | _ => ⟨none, .ok []⟩

theorem run_fresh_goingDown :
    Started goingDown (.ofSecs 30) (by decide)
        ((ofSource ⟨goingDown, []⟩).start (.ofSecs 30) (by decide)).1 ∧
      Fresh goingDown (.ofSecs 30)
        ((((ofSource ⟨goingDown, []⟩).start (.ofSecs 30) (by decide)).1).run
          [.sleep (.ofSecs 80), .close (.ofSecs 5)]) := by
  have hstarted : Started goingDown (.ofSecs 30) (by decide)
      ((ofSource ⟨goingDown, []⟩).start (.ofSecs 30) (by decide)).1 := .start rfl
  exact ⟨hstarted, run_fresh hstarted _⟩

end Informer

end EventIntake.Capability
