import EventIntake.Capability.EventIndex
import EventIntake.Ingress.Request
import EventIntake.Journal
import EventIntake.Messaging.Bus

/-!
# Forwarding events

An event becomes one message: its target comes first among the headers, so that no header of the
request can stand in for it, and of the request only `content-type` and the `ce-` headers with
readable values go along.  The index of event types never decides what is forwarded; it only tells
of types that it does not know.
-/

namespace EventIntake.Ingress

/-- The address at which events are awaited. -/
def ingressAddress : String := "receiver.ingress"

def namespaceHeader : String := "ingress-namespace"

def nameHeader : String := "ingress-name"

/-- An event with its target. -/
structure Event where
  «namespace» : String
  name : String
  fields : List (String × ByteArray)
  body : ByteArray

/-- Whether a header of a request goes along. -/
def isForwarded (name : String) : Bool := name.startsWith "ce-" || name == "content-type"

namespace Event

/-- The headers of the request that go along. -/
def forwarded (e : Event) : List (String × String) :=
  (e.fields.filter fun f => isForwarded f.1).filterMap fun (name, value) =>
    (readable? value).map (name, ·)

def message (e : Event) : Message :=
  { address := ingressAddress
    headers := (namespaceHeader, e.namespace) :: (nameHeader, e.name) :: e.forwarded
    payload := e.body }

/-- The type that the event gives for itself. -/
def type? (e : Event) : Option String :=
  (e.fields.find? fun f => f.1 == "ce-type").bind fun f => readable? f.2

/-- What is told of an event whose type is not in the index. -/
def unregistered? (index : Option Capability.EventIndex) (e : Event) : Option LogLine :=
  match index, e.type? with
  | some index, some type =>
    if (index.findType? e.namespace type).isSome then none
    else
      some ⟨.debug, "Event type not registered, eligible for auto-creation",
        [("namespace", e.namespace), ("ce_type", type)]⟩
  | _, _ => none

def rejected (e : Event) : LogLine :=
  ⟨.warn, "No producer attached, event rejected", [("namespace", e.namespace), ("name", e.name)]⟩

/-- Send an event on the bus. -/
def forward (index : Option Capability.EventIndex) (bus : Bus) (e : Event) :
    Bus × List LogLine × Response :=
  let told := (e.unregistered? index).toList
  match bus.send e.message with
  | .error .closed => (bus, told, { status := 503, body := "shutting down" })
  | .ok (bus, 0) => (bus, told ++ [e.rejected], { status := 503, body := "no producer available" })
  | .ok (bus, _) => (bus, told, { status := 202 })

end Event

end EventIntake.Ingress
