import EventIntake.Files.Tree
import EventIntake.Properties.Text
import EventIntake.Properties.Typed

/-!
# Options from property files

The backend that takes the events has a file of properties, three of which are fixed whatever the
file gives.  The two listeners share a file of typed options, of which `maxBodySize` bounds the body
of a request.
-/

namespace EventIntake

/-- A file that could not be read. -/
structure FileError where
  path : String
  reason : ReadError
  deriving DecidableEq, Repr

def FileError.message (e : FileError) : String :=
  "failed to read " ++ e.path ++ ": " ++ e.reason.message

def Properties.ofFile (files : Files.Tree) (path : String) : Except FileError Properties :=
  match files.readText path with
  | .ok text => .ok (ofText text)
  | .error reason => .error ⟨path, reason⟩

/-- The properties of the backend's client. -/
structure BackendOptions where
  properties : Properties

namespace BackendOptions

/-- The properties that are always set, and their values. -/
def fixed : List (String × String) :=
  [("key.serializer", "string"), ("value.serializer", "cloudevent"),
    ("interceptor.classes", "partition-key")]

def ofProperties (p : Properties) : BackendOptions :=
  ⟨fixed.foldl (fun p (key, value) => p.insert key value) p⟩

def ofFile (files : Files.Tree) (path : String) : Except FileError BackendOptions :=
  (Properties.ofFile files path).map ofProperties

def get? (o : BackendOptions) (key : String) : Option String := o.properties.get? key

end BackendOptions

/-- The options of one listener. -/
structure ListenerOptions where
  host : String
  port : Nat
  properties : List (String × TypedValue)

namespace ListenerOptions

def ofFile (files : Files.Tree) (path host : String) (port : Nat) :
    Except FileError ListenerOptions :=
  (Properties.ofFile files path).map fun p => ⟨host, port, p.typed⟩

/-- The bound on the body of a request, in bytes. -/
def maxBodySize (o : ListenerOptions) : Option Nat :=
  (o.properties.lookup "maxBodySize").bind TypedValue.nat?

end ListenerOptions

end EventIntake
