import EventIntake.Ingress.Forwarding
import EventIntake.Net.Network
import EventIntake.Settings.Options

/-!
# The ingress server

The server listens once, and its workers share what it listens at.  A body may be as long as the
option file says, and two mebibytes if it says nothing.
-/

namespace EventIntake.Ingress

def defaultBodyLimit : Nat := 2 * 1024 * 1024

/-- The name under which worker `i` is closed. -/
def workerName (i : Nat) : String := "ingress-worker-" ++ toString i

structure Server where
  address : Net.Address
  bodyLimit : Nat
  index : Option Capability.EventIndex

namespace Server

/-- Listen at the host and the port of the options. -/
def listen (o : ListenerOptions) (index : Option Capability.EventIndex)
    (sockets : Net.Sockets) : Except String Server := do
  let address ← sockets.listen (← sockets.addressOf o.host) o.port
  return { address, bodyLimit := o.maxBodySize.getD defaultBodyLimit, index }

/-- The response to a request, with what is told of it. -/
def respond (s : Server) (bus : Bus) (r : Request) : Bus × List LogLine × Response :=
  match route r.method r.target with
  | .health => (bus, [], { status := 200 })
  | .notFound => (bus, [], { status := 404 })
  | .notAllowed allow => (bus, [], { status := 405, allow := some allow })
  | .malformed segment =>
    (bus, [],
      { status := 400, body := "Invalid URL: Invalid UTF-8 in \x60" ++ segment ++ "\x60" })
  | .event ns name =>
    if s.bodyLimit < r.body.size then
      (bus, [],
        { status := 413, body := "Failed to buffer the request body: length limit exceeded" })
    else
      Event.forward s.index bus { «namespace» := ns, name, fields := r.fields, body := r.body }

/-- Make a request over a network. -/
def request (n : Net.Network) (s : Server) (bus : Bus) (r : Request) :
    Except String (Bus × List LogLine × Response) :=
  match n.obstacle? with
  | some reason => .error reason
  | none => .ok (s.respond bus r)

end Server

end EventIntake.Ingress
