import EventIntake.Net.Address

/-!
# Networks

What a process can do on the network of its host: listen at an address, and reach one.  Listening
is refused at the ports that are reserved, which are those below 1024 except 0, where the system
chooses a port of its own.  On a network without a route nobody can be reached, not even on the
same host.
-/

namespace EventIntake.Net

inductive Network where
  | connected
  /-- Without a route to any address. -/
  | unreachable
  deriving DecidableEq, Repr

/-- Why nobody can be reached. -/
def Network.obstacle? : Network → Option String
  | connected => none
  | unreachable => some "Network is unreachable (os error 101)"

def isReserved (port : Nat) : Bool := 0 < port && port < 1024

/-- Listen at a port of an address. -/
def listen (address : Address) (port : Nat) : Except String Address :=
  if isReserved port then .error "Permission denied (os error 13)" else .ok address

/-- The address of a host, given as an address or by its name.  Only the host itself has a known
name. -/
def addressOf (host : String) : Except String Address :=
  match v4 host.toList, v6 host.toList with
  | some (bytes, []), _ => .ok (.v4 bytes)
  | _, some (words, []) => .ok (.v6 words)
  | _, _ =>
    if host = "localhost" then .ok (.v4 [127, 0, 0, 1])
    else if host.toList.contains '\x00' then .error "file name contained an unexpected NUL byte"
    else .error "failed to lookup address information: Name or service not known"

/-- How a process comes to listen somewhere. -/
structure Sockets where
  addressOf : String → Except String Address := Net.addressOf
  listen : Address → Nat → Except String Address := Net.listen

end EventIntake.Net
