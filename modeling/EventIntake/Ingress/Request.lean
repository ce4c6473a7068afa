import EventIntake.Url.Encoding

/-!
# Requests to the ingress

A request has a method, a target, headers and a body.  The names of headers are compared without
regard to case; `fields` holds them in lower case with the values of one name side by side, in the
order in which the names first come.

The router knows two paths.  `/healthz` tells that the worker is up, and `/NAMESPACE/NAME` takes an
event; neither segment is empty, and each is decoded after the path was split.
-/

namespace EventIntake.Ingress

structure Request where
  method : String
  target : String
  headers : List (String × ByteArray) := []
  body : ByteArray := .empty

structure Response where
  status : Nat
  /-- The methods that are allowed, where this one is not. -/
  allow : Option String := none
  body : String := ""
  deriving DecidableEq, Repr

def lowerCase (name : String) : String := name.map fun c => c.toLower

/-- `fields` with one more value at the end of those of its name. -/
def addField (name : String) (value : ByteArray) :
    List (String × List ByteArray) → List (String × List ByteArray)
  | [] => [(name, [value])]
  | (n, vs) :: rest =>
    if n = name then (n, vs ++ [value]) :: rest else (n, vs) :: addField name value rest

/-- The headers, the values of one name together. -/
def Request.fields (r : Request) : List (String × ByteArray) :=
  (r.headers.foldl (fun fs (name, value) => addField (lowerCase name) value fs) []).flatMap
    fun (name, values) => values.map (name, ·)

/-- A header value that is text: printable ASCII characters and tabs. -/
def readable? (value : ByteArray) : Option String :=
  if value.toList.all fun b => (0x20 ≤ b && b < 0x7F) || b == 9 then String.fromUTF8? value
  else none

/-! ## Routes -/

inductive Route where
  | health
  | event («namespace» name : String)
  /-- The named segment is not text. -/
  | malformed (segment : String)
  | notAllowed (allow : String)
  | notFound
  deriving DecidableEq, Repr

/-- The pieces of a path between its slashes. -/
def segments (path : List Char) : List (List Char) :=
  path.foldr (fun c pieces =>
    if c = '/' then [] :: pieces
    else
      match pieces with
      | piece :: rest => (c :: piece) :: rest
      | [] => [[c]]) [[]]

def decode? (segment : List Char) : Option String :=
  String.fromUTF8? ⟨(Url.decoded (String.ofList segment).toUTF8.toList).toArray⟩

/-- What decoded segments lead to. -/
def eventRoute («namespace» name : List Char) : Route :=
  match decode? «namespace», decode? name with
  | none, _ => .malformed "namespace"
  | _, none => .malformed "name"
  | some ns, some name => .event ns name

def route (method target : String) : Route :=
  match segments (target.toList.takeWhile (· ≠ '?')) with
  | [[], one] =>
    if one = "healthz".toList then
      if method = "GET" ∨ method = "HEAD" then .health else .notAllowed "GET,HEAD"
    else .notFound
  | [[], one, two] =>
    if one = [] ∨ two = [] then .notFound
    else if method = "POST" then eventRoute one two
    else .notAllowed "POST"
  | _ => .notFound

end EventIntake.Ingress
