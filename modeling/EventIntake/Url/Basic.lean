import EventIntake.Net.Address

/-!
# URLs

A URL has a scheme, perhaps a host with credentials and a port, a path, and perhaps a query and a
fragment.  Its parts are held in their written form, and `text` puts them together.  A URL without a
host may have a path that is one opaque text.
-/

namespace EventIntake

namespace Url

inductive ParseError where
  | emptyHost
  | idna
  | invalidPort
  | invalidIpv4Address
  | invalidIpv6Address
  | invalidDomainCharacter
  | relativeWithoutBase
  deriving DecidableEq, Repr

def ParseError.message : ParseError → String
  | emptyHost => "empty host"
  | idna => "invalid international domain name"
  | invalidPort => "invalid port number"
  | invalidIpv4Address => "invalid IPv4 address"
  | invalidIpv6Address => "invalid IPv6 address"
  | invalidDomainCharacter => "invalid domain character"
  | relativeWithoutBase => "relative URL without a base"

inductive Host where
  | domain (name : String)
  | address (address : Net.Address)
  deriving DecidableEq, Repr

def Host.text : Host → String
  | domain name => name
  | address (.v4 bytes) => (Net.Address.v4 bytes).text
  | address (.v6 words) => "[" ++ (Net.Address.v6 words).text ++ "]"

/-- Schemes whose URLs have a host, and the port that goes without saying. -/
def defaultPort? (scheme : String) : Option Nat :=
  if scheme = "http" ∨ scheme = "ws" then some 80
  else if scheme = "https" ∨ scheme = "wss" then some 443
  else if scheme = "ftp" then some 21
  else none

inductive SchemeKind where
  | file
  | special
  | other
  deriving DecidableEq, Repr

def SchemeKind.of (scheme : String) : SchemeKind :=
  if scheme = "file" then .file
  else if (defaultPort? scheme).isSome then .special
  else .other

/-- Whether a backslash counts as a slash. -/
def SchemeKind.isSpecial (k : SchemeKind) : Bool := k != .other

/-- What stands between the two slashes and the path. -/
structure Authority where
  username : String
  password : Option String
  host : Host
  port : Option Nat
  deriving DecidableEq, Repr

def Authority.text (a : Authority) : String :=
  let userinfo := a.username ++ (match a.password with | some p => ":" ++ p | none => "")
  (if userinfo = "" then "" else userinfo ++ "@") ++ a.host.text
    ++ (match a.port with | some p => ":" ++ toString p | none => "")

end Url

structure Url where
  scheme : String
  authority : Option Url.Authority
  path : String
  query : Option String
  fragment : Option String
  deriving DecidableEq, Repr

namespace Url

def text (u : Url) : String :=
  u.scheme ++ ":"
    ++ (match u.authority with
        | some a => "//" ++ a.text
        | none => if u.path.startsWith "//" then "/." else "")
    ++ u.path
    ++ (match u.query with | some q => "?" ++ q | none => "")
    ++ (match u.fragment with | some f => "#" ++ f | none => "")

/-- Whether the URL has a host that is not empty. -/
def hasHost (u : Url) : Bool :=
  match u.authority with
  | some a => a.host.text != ""
  | none => false

def withoutCredentials (u : Url) : Url :=
  { u with authority := u.authority.map fun a => { a with username := "", password := none } }

end Url

end EventIntake
