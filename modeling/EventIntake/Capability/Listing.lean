import EventIntake.Capability.Source
import EventIntake.Json.Reading

/-!
# Listings of event types

A control plane lists event types as a document: an object with `items`, each with its `metadata`
and `spec`.  A record may also be written as an array of its fields in their order.  What is not
known is left out, a known field may come only once, and one item that does not fit spoils the
whole listing.
-/

namespace EventIntake.Capability

open Json (Value)

/-- The known fields of a record: `none` for a field that is not given. -/
def recordFields? (names : List String) : Value → Option (List (Option Value))
  | .array items =>
    if items.length ≤ names.length then
      some ((items.map some) ++ List.replicate (names.length - items.length) none)
    else none
  | .object members => do
    let named ← members.mapM fun (name, v) => name.map (·, v)
    names.mapM fun name =>
      match named.filter fun m => m.1 == name with
      | [] => some none
      | [m] => some (some m.2)
      | _ => none
  | _ => none

def text? : Value → Option String
  | .string text => text
  | _ => none

/-- A text that is empty when it is not given. -/
def textOrEmpty? : Option Value → Option String
  | some v => text? v
  | none => some ""

/-- The name and the namespace of an item. -/
def metadata? (v : Value) : Option (String × String) := do
  match ← recordFields? ["name", "namespace"] v with
  | [some name, space] => return (← text? name, ← textOrEmpty? space)
  | _ => none

/-- The type that an item describes. -/
def spec? : Option Value → Option String
  | none => some ""
  | some v => do
    match ← recordFields? ["type"] v with
    | [type] => textOrEmpty? type
    | _ => none

def eventType? (v : Value) : Option EventType := do
  match ← recordFields? ["metadata", "spec"] v with
  | [some metadata, spec] =>
    let (name, space) ← metadata? metadata
    return { «namespace» := space, name, type := ← spec? spec }
  | _ => none

def eventTypes? (v : Value) : Option (List EventType) := do
  match ← recordFields? ["items"] v with
  | [none] => return []
  | [some (.array items)] => items.mapM eventType?
  | _ => none

/-- The event types that a document lists. -/
def listing? (document : ByteArray) : Option (List EventType) :=
  (Json.ofBytes? document).bind eventTypes?

end EventIntake.Capability
