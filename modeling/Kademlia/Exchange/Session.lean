import Kademlia.Exchange.Pending
import Kademlia.Service.Handler
/-!
# Sessions

The requests sent to and received from one address. A request from there is answered by exactly one
datagram, a response or an error; any other message ends at most one transaction and is never
answered.
-/

namespace Kademlia.Exchange

open Bencode Wire Service

/-- The version sent along with every message. -/
def version : Bytes := [75, 68, 48, 49]

/-- Answers requests from an address, over a state. -/
abbrev Responder (σ : Type) := Address → Query → σ → Answer × σ

/-- The exchange with one address. -/
structure Session where
  address : Address
  /-- How long a reply is waited for, in milliseconds. -/
  timeout : Nat
  pending : Pending
  stopped : Bool
  deriving DecidableEq, Repr

namespace Session

/-- A session without transactions. -/
def new (address : Address) (timeout : Nat) : Session :=
  ⟨address, timeout, [], false⟩

/-- Is no reply waited for? -/
def isIdle (s : Session) : Bool :=
  s.pending.isEmpty

/-- Send a request at `now` on behalf of a ticket. -/
def request (s : Session) (transport : Transport) (e : Entropy) (ticket : Ticket) (method : String)
    (arguments : Dict) (now : Nat) : Session × Traffic × Entropy :=
  if s.stopped then (s, ⟨[], [⟨ticket, .error .stopped⟩]⟩, e)
  else
    let (draw, e) := e.next
    let id := s.pending.freshId draw
    let message : Message := ⟨id, some version, .request ⟨method, arguments⟩⟩
    match transport s.address with
    | some reason => (s, ⟨[], [⟨ticket, .error (.unreachable reason)⟩]⟩, e)
    | none =>
      let transaction : Transaction := ⟨id, ticket, method, now + s.timeout⟩
      ({ s with pending := transaction :: s.pending }, ⟨[⟨s.address, message.encode⟩], []⟩, e)

/-- The datagram that answers a request. -/
def reply (transaction : Bytes) (answer : Answer) (maxPacket : Nat) : Bytes :=
  let body := match answer with
    | .ok payload => Body.response payload
    | .error error => Body.error error.toProtocol
  Message.encodeWithin ⟨transaction, some version, body⟩ maxPacket

/-- End a transaction of a session. -/
def resolve (s : Session) (id : Bytes) (reply : Reply) : Session × Traffic :=
  let (delivered, pending) := s.pending.resolve id reply
  ({ s with pending }, ⟨[], delivered⟩)

/-- Take in a message from the address of the session. -/
def handle {σ : Type} (s : Session) (transport : Transport) (respond : Responder σ) (maxPacket : Nat)
    (m : Message) (state : σ) : Session × Traffic × σ :=
  match m.body with
  | .request query =>
    let (answer, state) := respond s.address query state
    let sent := match transport s.address with
      | some _ => []
      | none => [⟨s.address, reply m.transaction answer maxPacket⟩]
    (s, ⟨sent, []⟩, state)
  | .response payload =>
    let (s, traffic) := s.resolve m.transaction (.ok ⟨s.address, payload⟩)
    (s, traffic, state)
  | .error error =>
    let (s, traffic) := s.resolve m.transaction (.error (.remote error))
    (s, traffic, state)
  | .unknown type =>
    let (s, traffic) := s.resolve m.transaction (.error (.unknownType (Utf8.decodeLossy type)))
    (s, traffic, state)

/-- End the transactions whose deadline has come. -/
def expire (s : Session) (now : Nat) : Session × Traffic :=
  let (delivered, pending) := s.pending.expire s.address now
  ({ s with pending }, ⟨[], delivered⟩)

/-- End all transactions, and every later request at once. -/
def stop (s : Session) : Session × Traffic :=
  ({ s with pending := [], stopped := true }, ⟨[], s.pending.stop⟩)

end Session

end Kademlia.Exchange
