import EventIntake.Capability.Listing
import EventIntake.Files.Tree
import EventIntake.Http.Status
import EventIntake.Text.Blank
import EventIntake.Text.Quoted
import EventIntake.Url.Reading

/-!
# The control plane

A control plane is reached at a URL, with a token from a file if there is one.  A list is one
request: it may fail before it is sent, on the way, by the status of the answer, or by what the
answer holds.
-/

namespace EventIntake.Capability

structure ControlPlane where
  url : Url
  token : Option String

/-- What became of a request that was sent. -/
inductive Transfer where
  /-- No answer: nobody could be reached, or the connection was closed. -/
  | none
  | answer (status : Nat) (body : ByteArray)

namespace ControlPlane

/-- Take the token from its file. -/
def ofSettings (files : Files.Tree) (endpoint : String) (tokenPath : Option String) :
    Except SourceError ControlPlane :=
  match Url.parse endpoint with
  | .error e =>
    .error (.failed ("invalid control-plane URL " ++ Text.quoted endpoint ++ ": " ++ e.message))
  | .ok url =>
    match tokenPath with
    | none => .ok ⟨url, none⟩
    | some path =>
      match files.readText path with
      | .ok text => .ok ⟨url, some (Text.trimmed text)⟩
      | .error e => .error (.failed ("failed to read token " ++ path ++ ": " ++ e.message))

/-- Whether a text can be the value of a header: it holds no control character but the tab. -/
def isHeaderText (text : String) : Bool :=
  text.toList.all fun c => c = '\t' || (0x20 ≤ c.toNat && c.toNat ≠ 0x7F)

def isText (encoded : String) : Bool :=
  (String.fromUTF8? ⟨(Url.decoded encoded.toUTF8.toList).toArray⟩).isSome

/-- The URL that a request goes to.  Credentials in it travel in a header instead, if they are
text. -/
def target (c : ControlPlane) : Url :=
  match c.url.authority with
  | none => c.url
  | some a =>
    if isText a.username ∧ (a.username ≠ "" ∨ (a.password.map isText).getD false) then
      c.url.withoutCredentials
    else c.url

/-- The value of the header that authorizes a request. -/
def authorization? (c : ControlPlane) : Option String := c.token.map ("Bearer " ++ ·)

/-- Why a request cannot be sent. -/
def obstacle? (c : ControlPlane) : Option String :=
  let unfit (url : Url) := "builder error for url (" ++ url.text ++ ")"
  if !c.url.hasHost then some (unfit c.url)
  else if !(c.authorization?.map isHeaderText).getD true then some "builder error"
  else if c.url.scheme ≠ "http" ∧ c.url.scheme ≠ "https" then some (unfit c.target)
  else none

def requestFailed (reason : String) : SourceError :=
  .failed ("control-plane request failed: " ++ reason)

/-- What a list comes to, with what becomes of its request. -/
def list (c : ControlPlane) (transfer : Transfer) : Except SourceError (List EventType) :=
  match c.obstacle?, transfer with
  | some reason, _ => .error (requestFailed reason)
  | none, .none =>
    .error (requestFailed ("error sending request for url (" ++ c.target.text ++ ")"))
  | none, .answer status body =>
    let told := Http.statusText status ++ " from " ++ c.url.text
    if status = 401 ∨ status = 403 then .error (.permission told)
    else if status < 200 ∨ 300 ≤ status then .error (.failed told)
    else
      match listing? body with
      | some items => .ok items
      | none => .error (.failed "malformed event type list: error decoding response body")

end ControlPlane

end EventIntake.Capability
