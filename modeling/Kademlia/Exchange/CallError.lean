import Kademlia.Address.Printer
import Kademlia.Text.Literal
import Kademlia.Wire.Message
/-!
# Failed calls

Why a request brought no usable response, with the number and the text of each reason.
-/

namespace Kademlia.Exchange

open Bencode Wire

/-- Why a request brought no usable response. -/
inductive CallError where
  /-- No reply came in time. -/
  | timeout (method : String) (address : Address)
  /-- The node replied with an error. -/
  | remote (error : ProtocolError)
  /-- The session ended before a reply came. -/
  | stopped
  /-- The request could not be sent. -/
  | unreachable (reason : String)
  /-- Another node than the one asked responded. -/
  | identityMismatch (expected got : Id)
  /-- The payload of the response is not the one wanted. -/
  | malformedResponse (reason : String)
  /-- The request was meant for the own address. -/
  | selfConnection (address : Address)
  /-- The reply is of an unknown type. -/
  | unknownType (type : String)
  /-- The request could not be written. -/
  | internal (reason : String)
  deriving DecidableEq, Repr

namespace CallError

/-- The number of a reason: the node's own for an error it sent, else one of the local numbers. -/
def code : CallError → Int64
  | remote error => error.code
  | timeout .. => 102
  | stopped => 103
  | unknownType _ => 101
  | _ => 100

/-- The text of a reason. -/
def message : CallError → String
  | timeout method address => s!"{method} request to {address.text} timed out"
  | remote error => s!"Remote error: {error.message}"
  | stopped => "Session stopped"
  | unreachable reason => s!"Unreachable: {reason}"
  | identityMismatch expected got => s!"Expected a response from {expected.hex}, got one from {got.hex}"
  | malformedResponse reason => s!"Malformed response: {reason}"
  | selfConnection address => s!"Refusing to send a request to our own address {address.text}"
  | unknownType type => s!"Received unknown message type {Literal.quote type}"
  | internal reason => s!"Internal error: {reason}"

end CallError

/-- A payload and the address it came from. -/
structure Response where
  source : Address
  payload : Dict

/-- How a request ended. -/
abbrev Reply := Except CallError Response

/-- The promise of one reply. -/
abbrev Ticket := Nat

/-- A reply given to the holder of a ticket. -/
structure Delivery where
  ticket : Ticket
  reply : Reply

/-- Octets from or to an address. -/
structure Datagram where
  peer : Address
  bytes : Bytes
  deriving DecidableEq, Repr

/-- The reason why a datagram to an address cannot be sent, none if it can. -/
abbrev Transport := Address → Option String

/-- What an operation sends and which replies it gives. -/
structure Traffic where
  sent : List Datagram
  delivered : List Delivery

/-- Nothing. -/
def Traffic.none : Traffic :=
  ⟨[], []⟩

end Kademlia.Exchange
