import Kademlia.Routing.Table
import Kademlia.Wire.Payload
/-!
# Handlers

A handler answers one request with a payload or with a reason why not, which becomes an error
message to the requester.
-/

namespace Kademlia.Service

open Bencode Wire

/-- Why a handler gave no payload. -/
inductive HandlerError where
  /-- It answers with this error. -/
  | protocol (error : ProtocolError)
  /-- It failed. -/
  | failure (description : String)
  /-- It broke down. -/
  | crash
  deriving DecidableEq, Repr

namespace HandlerError

/-- The error that is sent to the requester. -/
def toProtocol : HandlerError → ProtocolError
  | protocol error => error
  | failure description => .server description
  | crash => .server "internal error"

/-- The text of a handler error. -/
def message : HandlerError → String
  | protocol error => error.message
  | failure description => description
  | crash => "internal error"

end HandlerError

/-- What a handler says to a request. -/
abbrev Answer := Except HandlerError Dict

/-- What a handler knows about a request besides its arguments. -/
structure Context where
  requester : Address
  table : Routing.Table

/-- The own identifier, which every answer carries. -/
def Context.id (c : Context) : Id :=
  c.table.id

/-- A handler of one method, over a state. -/
abbrev Handler (σ : Type) := Context → Dict → σ → Answer × σ

/-- Read the arguments of a request; a fault in them is the requester's. -/
def arguments (α : Type) [Payload α] (d : Dict) : Except HandlerError α :=
  (Payload.ofDict d).mapError fun e => .protocol (.malformedRequest e.message)

/-- The dictionary of an answer. -/
def answer {α : Type} [Payload α] (a : α) : Answer :=
  (Payload.toDict a).mapError fun e => .failure e.message

end Kademlia.Service
