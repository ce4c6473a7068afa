import EventIntake.Ingress.Server
import EventIntake.Proofs.Ingress.Fields
import EventIntake.Proofs.Messaging.Delivery

/-!
# What the ingress forwards

An event is accepted when somebody at the ingress address gets it, and then each consumer there gets
one message: the body, and as headers the target and what goes along of the request
(`Ingress.Forwards`).  The target comes first, so no header of a client can stand in for it.

The index of event types is only read to tell of a type that it does not hold.  What a server
answers and sends in the course of any run is the same with another index, or with none
(`Ingress.run_map_blind`).
-/

namespace EventIntake.Ingress

open Bus (listeners)
open Capability (EventIndex)

/-! ## Requests that are events -/

/-- A request that reaches the bus as an event. -/
structure Reaches (s : Server) (r : Request) (e : Event) : Prop where
  route : route r.method r.target = .event e.namespace e.name
  fits : r.body.size ≤ s.bodyLimit
  fields : e.fields = r.fields
  body : e.body = r.body

def Event.HasType (e : Event) (type : String) : Prop :=
  ∃ pre value post, e.fields = pre ++ ("ce-type", value) :: post ∧
    (∀ f ∈ pre, f.1 ≠ "ce-type") ∧ Readable value type

theorem Reaches.respond_eq {s : Server} {r : Request} {e : Event} (h : Reaches s r e) (b : Bus) :
    s.respond b r = e.forward s.index b := by
  obtain ⟨ns, name, fields, body⟩ := e
  obtain rfl : fields = r.fields := h.fields
  obtain rfl : body = r.body := h.body
  rw [Server.respond, h.route]
  exact if_neg (Nat.not_lt.mpr h.fits)

namespace Event

variable {e : Event} {b : Bus} {h : List Bus.Event}

theorem type?_eq_some {type : String} : e.type? = some type ↔ e.HasType type := by
  rw [type?, Option.bind_eq_some_iff]
  constructor
  · rintro ⟨⟨name, value⟩, hfind, hvalue⟩
    obtain ⟨hname, pre, post, hfields, hpre⟩ := List.find?_eq_some_iff_append.mp hfind
    obtain rfl : name = "ce-type" := by simpa using hname
    exact ⟨pre, value, post, hfields, by simpa using hpre, readable?_eq_some.mp hvalue⟩
  · rintro ⟨pre, value, post, hfields, hpre, hvalue⟩
    refine ⟨("ce-type", value), ?_, readable?_eq_some.mpr hvalue⟩
    exact List.find?_eq_some_iff_append.mpr ⟨by simp, pre, post, hfields, by simpa using hpre⟩

def unknown (e : Event) (type : String) : LogLine :=
  ⟨.debug, "Event type not registered, eligible for auto-creation",
    [("namespace", e.namespace), ("ce_type", type)]⟩

theorem findType?_eq_none {x : EventIndex} {ns type : String} : x.findType? ns type = none ↔
    ∀ item ∈ x.entries, item.namespace = ns → item.type ≠ type := by
  simp [EventIndex.findType?]

theorem unregistered?_eq_some {index : Option EventIndex} {line : LogLine} :
    e.unregistered? index = some line ↔ ∃ x type, index = some x ∧ e.HasType type ∧
      (∀ item ∈ x.entries, item.namespace = e.namespace → item.type ≠ type) ∧
        line = e.unknown type := by
  simp only [← type?_eq_some, ← findType?_eq_none]
  cases index with
  | none => simp [unregistered?]
  | some x =>
    cases htype : e.type? with
    | none => simp [unregistered?, htype]
    | some type =>
      cases hfind : x.findType? e.namespace type with
      | none => simp [unregistered?, htype, hfind, unknown, eq_comm]
      | some item => simp [unregistered?, htype, hfind]

theorem header?_namespaceHeader (e : Event) :
    e.message.header? namespaceHeader = some e.namespace := by
  rw [message, Message.header?_cons, if_pos rfl]

theorem header?_nameHeader (e : Event) : e.message.header? nameHeader = some e.name := by
  have hne : namespaceHeader ≠ nameHeader := by decide
  rw [message, Message.header?_cons, if_neg hne, Message.header?_cons, if_pos rfl]

/-! ## Sending an event -/

/-- How an event fares on a bus with a history. -/
inductive Fares (b : Bus) (h : List Bus.Event) (index : Option EventIndex) (e : Event) :
    Bus × List LogLine × Response → Prop
  | closed (hclosed : b.closed = true) : Fares b h index e
      (b, (e.unregistered? index).toList, { status := 503, body := "shutting down" })
  | unheard {b' : Bus} (hopen : b.closed = false) (hnone : listeners ingressAddress h = [])
      (hpending : ∀ i, b'.pending i = b.pending i) : Fares b h index e
      (b', (e.unregistered? index).toList ++ [e.rejected],
        { status := 503, body := "no producer available" })
  | heard {b' : Bus} (hopen : b.closed = false) (hsome : listeners ingressAddress h ≠ [])
      (hpending : ∀ i, b'.pending i = b.pending i ++
        if i ∈ listeners ingressAddress h then [e.message] else []) : Fares b h index e
      (b', (e.unregistered? index).toList, { status := 202 })

theorem forward_fares (k : b.Keeps h) (index : Option EventIndex) (e : Event) :
    e.Fares b h index (e.forward index b) := by
  cases hclosed : b.closed with
  | true =>
    have hsend : b.send e.message = .error .closed := if_pos hclosed
    rw [forward, hsend]
    exact .closed hclosed
  | false =>
    have haddress : listeners e.message.address h = listeners ingressAddress h := rfl
    obtain ⟨b', hsend, -, hconsumers, -⟩ := k.send_of_open hclosed e.message
    have hpending := k.pending_handOut hclosed hconsumers
    rw [haddress] at hsend hpending
    cases hlisteners : listeners ingressAddress h with
    | nil =>
      rw [hlisteners] at hsend hpending
      rw [forward, hsend]
      apply Fares.unheard hclosed hlisteners
      intro i
      rw [hpending i, if_neg List.not_mem_nil, List.append_nil]
    | cons first rest =>
      have hsome : listeners ingressAddress h ≠ [] := by simp [hlisteners]
      rw [hlisteners, List.length_cons] at hsend
      rw [forward, hsend]
      exact .heard hclosed hsome hpending

/-- The index has no part in what is sent and answered. -/
theorem forward_blind (index : Option EventIndex) (b : Bus) (e : Event) :
    (e.forward index b).1 = (e.forward none b).1 ∧
      (e.forward index b).2.2 = (e.forward none b).2.2 := by
  rw [forward, forward]
  split <;> exact ⟨rfl, rfl⟩

end Event

/-! ## Runs with other indexes -/

/-- A request to a server with the index that it has then, or something else that happens to the
bus. -/
inductive Step where
  | request (index : Option EventIndex) (r : Request)
  | operation (op : Bus.Operation)

def Step.blind : Step → Step
  | .request _ r => .request none r
  | .operation op => .operation op

def Step.take (s : Server) (b : Bus) : Step → Bus × (Response ⊕ Bus.Answer)
  | .request index r =>
    let (b, _, response) := { s with index }.respond b r
    (b, .inl response)
  | .operation op =>
    let (b, answer) := b.perform op
    (b, .inr answer)

def run (s : Server) (b : Bus) : List Step → Bus × List (Response ⊕ Bus.Answer)
  | [] => (b, [])
  | step :: rest =>
    let (next, answer) := step.take s b
    let (last, answers) := run s next rest
    (last, answer :: answers)

theorem Server.respond_blind (s : Server) (index : Option EventIndex) (b : Bus) (r : Request) :
    ({ s with index }.respond b r).1 = ({ s with index := none }.respond b r).1 ∧
      ({ s with index }.respond b r).2.2 = ({ s with index := none }.respond b r).2.2 := by
  rw [respond, respond]
  cases route r.method r.target with
  | event ns name =>
    show (if _ then _ else _ : Bus × List LogLine × Response).1 = _ ∧ _
    split
    · exact ⟨rfl, rfl⟩
    · exact Event.forward_blind index b _
  | health => exact ⟨rfl, rfl⟩
  | malformed segment => exact ⟨rfl, rfl⟩
  | notAllowed allow => exact ⟨rfl, rfl⟩
  | notFound => exact ⟨rfl, rfl⟩

theorem Step.take_blind (s : Server) (b : Bus) (step : Step) :
    step.blind.take s b = step.take s b := by
  cases step with
  | request index r =>
    obtain ⟨hbus, hresponse⟩ := s.respond_blind index b r
    rw [blind, take, take]
    simp only [hbus, hresponse]
  | operation op => rfl

theorem run_map_blind (s : Server) (b : Bus) (steps : List Step) :
    run s b (steps.map Step.blind) = run s b steps := by
  induction steps generalizing b with
  | nil => rfl
  | cons step rest ih =>
    rw [List.map_cons, run, run, step.take_blind]
    simp only [ih]

/-! ## What is forwarded -/

/-- What becomes of the requests that reach a bus with a history. -/
structure Forwards (b : Bus) (h : List Bus.Event) : Prop where
  /-- A request is accepted just when somebody is there to get the event. -/
  heard : ∀ s r e, Reaches s r e → ((s.respond b r).2.2.status = 202 ↔
    b.closed = false ∧ listeners ingressAddress h ≠ [])
  /-- So it is just when somebody gets it. -/
  accepted : ∀ s r e, Reaches s r e → ((s.respond b r).2.2.status = 202 ↔
    b.closed = false ∧ ∃ i ∈ listeners ingressAddress h,
      (s.respond b r).1.pending i = b.pending i ++ [e.message])
  refused : ∀ s r e, Reaches s r e → (s.respond b r).2.2.status ≠ 202 →
    (s.respond b r).2.2.status = 503 ∧ ∀ i, (s.respond b r).1.pending i = b.pending i
  /-- All that are there get an event that is accepted, each once, and nobody else does. -/
  delivered : ∀ s r e, Reaches s r e → (s.respond b r).2.2.status = 202 →
    (listeners ingressAddress h).Nodup ∧ ∀ i, (s.respond b r).1.pending i =
      b.pending i ++ if i ∈ listeners ingressAddress h then [e.message] else []
  /-- The message is the body, and before what goes along of the headers it names the target. -/
  payload : ∀ e : Event, e.message.address = ingressAddress ∧ e.message.payload = e.body
  headers : ∀ (e : Event) out, Passes e.fields out ↔
    e.message.headers = (namespaceHeader, e.namespace) :: (nameHeader, e.name) :: out
  target : ∀ e : Event, e.message.header? namespaceHeader = some e.namespace ∧
    e.message.header? nameHeader = some e.name
  fields : ∀ (r : Request) name, valuesOf name r.fields =
    (r.headers.filter fun header => lowerCase header.1 == name).map Prod.snd
  /-- The index is only read for a line about a type that it does not hold. -/
  told : ∀ s r e, Reaches s r e → (s.respond b r).2.1 = (e.unregistered? s.index).toList ++
    if b.closed = false ∧ listeners ingressAddress h = [] then [e.rejected] else []
  unregistered : ∀ (e : Event) index line, e.unregistered? index = some line ↔
    ∃ x type, index = some x ∧ e.HasType type ∧
      (∀ item ∈ x.entries, item.namespace = e.namespace → item.type ≠ type) ∧
        line = e.unknown type
  /-- Runs that differ only in their indexes have the same answers and the same messages. -/
  alike : ∀ s steps steps', steps.map Step.blind = steps'.map Step.blind →
    run s b steps = run s b steps'

theorem forwards_of_keeps {b : Bus} {h : List Bus.Event} (k : b.Keeps h) : Forwards b h := by
  constructor
  case heard =>
    intro s r e hreaches
    rw [hreaches.respond_eq]
    have hfares := e.forward_fares k s.index
    generalize e.forward s.index b = x at hfares ⊢
    cases hfares with
    | closed hclosed => simp [hclosed]
    | unheard hopen hnone hpending => simp [hnone]
    | heard hopen hsome hpending => simp [hopen, hsome]
  case accepted =>
    intro s r e hreaches
    rw [hreaches.respond_eq]
    have hfares := e.forward_fares k s.index
    generalize e.forward s.index b = x at hfares ⊢
    cases hfares with
    | closed hclosed => simp [hclosed]
    | unheard hopen hnone hpending => simp [hnone]
    | heard hopen hsome hpending =>
      obtain ⟨i, hi⟩ := List.exists_mem_of_ne_nil _ hsome
      simp only [hopen, true_iff, true_and]
      exact ⟨i, hi, by rw [hpending i, if_pos hi]⟩
  case refused =>
    intro s r e hreaches hrefused
    rw [hreaches.respond_eq] at hrefused ⊢
    have hfares := e.forward_fares k s.index
    generalize e.forward s.index b = x at hfares hrefused ⊢
    cases hfares with
    | closed hclosed => exact ⟨rfl, fun i => rfl⟩
    | unheard hopen hnone hpending => exact ⟨rfl, hpending⟩
    | heard hopen hsome hpending => exact absurd rfl hrefused
  case delivered =>
    intro s r e hreaches haccepted
    rw [hreaches.respond_eq] at haccepted ⊢
    have hfares := e.forward_fares k s.index
    generalize e.forward s.index b = x at hfares haccepted ⊢
    cases hfares with
    | closed hclosed => cases haccepted
    | unheard hopen hnone hpending => cases haccepted
    | heard hopen hsome hpending =>
      exact ⟨k.live hopen ingressAddress ▸ (k.nodup ingressAddress).filter _, hpending⟩
  case payload => exact fun e => ⟨rfl, rfl⟩
  case headers =>
    intro e out
    rw [e.passes_iff, Event.message]
    simp [eq_comm]
  case target => exact fun e => ⟨e.header?_namespaceHeader, e.header?_nameHeader⟩
  case fields => exact fun r name => r.valuesOf_fields name
  case told =>
    intro s r e hreaches
    rw [hreaches.respond_eq]
    have hfares := e.forward_fares k s.index
    generalize e.forward s.index b = x at hfares ⊢
    cases hfares with
    | closed hclosed => simp [hclosed]
    | unheard hopen hnone hpending => simp [hopen, hnone]
    | heard hopen hsome hpending => simp [hsome]
  case unregistered => exact fun e index line => Event.unregistered?_eq_some
  case alike =>
    intro s steps steps' halike
    rw [← run_map_blind, halike, run_map_blind]

/-- **Whatever a client sends, it is forwarded under the target of the request, to all that wait at
the ingress address, and the index of event types has no part in it.** -/
theorem run_forwards (ops : List Bus.Operation) :
    Forwards (({} : Bus).run ops).1 (({} : Bus).run ops).2 :=
  forwards_of_keeps (Bus.keeps_empty.run ops)

example (address : Net.Address) : Reaches ⟨address, 2, none⟩
    { method := "POST", target := "/orders/created?now" } ⟨"orders", "created", [], .empty⟩ :=
  ⟨by decide +kernel, Nat.zero_le 2, rfl, rfl⟩

example : (⟨"orders", "created", [("ingress-namespace", "other".toUTF8),
    ("ce-type", "dev.orders.created".toUTF8), ("ce-id", ⟨#[0x37, 0xFF]⟩)], .empty⟩ :
      Event).message.headers = [("ingress-namespace", "orders"), ("ingress-name", "created"),
        ("ce-type", "dev.orders.created")] := by
  decide +kernel

end EventIntake.Ingress
