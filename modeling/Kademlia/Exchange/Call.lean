import Kademlia.Exchange.Multiplexer
import Kademlia.Wire.Request
/-!
# Calls

A call is a request for one of the verbs. Its response counts only if it names its responder, and
if that is the node that was asked whenever the caller knows which one it asks.
-/

namespace Kademlia.Exchange

open Bencode Wire

/-- A request under way, and the node that should respond if it is known. -/
structure Call where
  ticket : Ticket
  expected : Option Id
  deriving DecidableEq, Repr

namespace Multiplexer

/-- Ask the node at an address for something, as the node `self`. -/
def call (m : Multiplexer) (transport : Transport) (self : Id) (address : Address)
    (expected : Option Id) (r : Request) (now : Nat) : Call × Multiplexer :=
  let (ticket, m) := match r.arguments self with
    | .ok arguments => m.request transport address r.method arguments now
    | .error e => m.reject (.internal e.message)
  (⟨ticket, expected⟩, m)

end Multiplexer

namespace Call

/-- The response, if it is from the node that was asked. -/
def verify (expected : Option Id) (r : Response) : Reply :=
  match authorOf r.payload with
  | none => .error (.malformedResponse "missing responder id")
  | some got =>
    match expected with
    | some id => if id = got then .ok r else .error (.identityMismatch id got)
    | none => .ok r

/-- The payload of a reply as an answer to what was asked. -/
def parse (α : Type) [Payload α] (reply : Reply) : Except CallError α := do
  let r ← reply
  (Payload.ofDict r.payload).mapError fun e => .malformedResponse e.message

/-- Look for the verified reply to a call, none while it is waited for. -/
def poll (c : Call) (m : Multiplexer) : Option Reply × Multiplexer :=
  match m.collect c.ticket with
  | (.ready reply, m) => (some (reply.bind (verify c.expected)), m)
  | (.waiting, m) => (none, m)
  | (.gone, m) => (some (.error .stopped), m)

/-- Look for the verified answer to a call, none while it is waited for. -/
def pollAs (α : Type) [Payload α] (c : Call) (m : Multiplexer) : Option (Except CallError α) × Multiplexer :=
  let (reply, m) := c.poll m
  (reply.map (parse α), m)

end Call

end Kademlia.Exchange
