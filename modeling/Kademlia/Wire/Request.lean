import Kademlia.Wire.Payload
/-!
# Requests

What a node can be asked to do, with the name and the arguments that ask for it.
-/

namespace Kademlia.Wire

/-- The names of the five verbs. -/
def Method.ping : String := "ping"

/-- Find contacts. -/
def Method.findNode : String := "find_node"

/-- Find holders of values. -/
def Method.findValue : String := "find_value"

/-- Fetch values. -/
def Method.getValue : String := "get_value"

/-- Store a value. -/
def Method.storeValue : String := "store_value"

/-- One of the five things a node can be asked to do. -/
inductive Request where
  | ping
  | findNode (target : Id)
  | findValue (key : Id)
  /-- Up to `num` values, all of them if `num` is zero. -/
  | getValue (key : Id) (num : Nat)
  | storeValue (key : Id) (value token : Bytes)
  deriving DecidableEq, Repr

namespace Request

/-- The name of the verb. -/
def method : Request → String
  | ping => Method.ping
  | findNode _ => Method.findNode
  | findValue _ => Method.findValue
  | getValue .. => Method.getValue
  | storeValue .. => Method.storeValue

/-- The arguments, as sent by the node `self`. -/
def arguments (self : Id) : Request → Except PayloadError Bencode.Dict
  | ping => Payload.toDict (Ping.Arguments.mk self)
  | findNode target => Payload.toDict (FindNode.Arguments.mk self target)
  | findValue key => Payload.toDict (FindValue.Arguments.mk self key)
  | getValue key num => Payload.toDict (GetValue.Arguments.mk self key num)
  | storeValue key value token => Payload.toDict (StoreValue.Arguments.mk self key value token)

end Request

end Kademlia.Wire
