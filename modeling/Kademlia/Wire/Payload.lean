import Kademlia.Contact
import Kademlia.Wire.Message
/-!
# Arguments and answers

The five verbs, the arguments a request carries and the payload of its answer. Reading goes through
the entries of the dictionary in the order of their keys and reports the first entry that is no
good; only then it reports a missing field. Unknown keys are passed over. A byte string may also be
given as a list of octets.
-/

namespace Kademlia.Wire

open Bencode

/-- Why a dictionary is not the payload wanted, or a payload has no dictionary. -/
inductive PayloadError where
  /-- A value of the wrong kind or out of range. -/
  | mismatch (mismatch : Mismatch)
  /-- A field that has to be there is not. -/
  | missing (field : String)
  /-- An identifier of the wrong size. -/
  | id (error : Id.SizeError)
  /-- Contacts of the wrong size. -/
  | contacts (error : Contact.CompactError)
  /-- A count that no bencode integer can hold. -/
  | countTooLarge (count : Nat)
  deriving DecidableEq, Repr

/-- The text of a payload error. -/
def PayloadError.message : PayloadError → String
  | mismatch m => s!"Failed to parse packet bytes: {m.message}"
  | missing field => s!"Failed to parse packet bytes: Missing Field: `{field}`"
  | id e => s!"Failed to parse packet bytes: {e.message}"
  | contacts e => s!"Failed to parse packet bytes: {e.message}"
  | countTooLarge n => s!"Failed to parse packet bytes: Can't parse `{n}` as integer"

/-- The kind of a value. -/
def foundKind : Value → Found
  | .int n => .integer n
  | .bytes _ => .byteArray
  | .list _ => .sequence
  | .dict _ => .map

/-- One octet given as an integer. -/
def readOctet : Value → Except PayloadError UInt8
  | .int n =>
    if 0 ≤ n.toInt ∧ n.toInt < 256 then .ok (UInt8.ofNat n.toInt.toNat)
    else .error (.mismatch (.range (.integer n) .octet))
  | v => .error (.mismatch (.kind (foundKind v) .octet))

/-- A byte string, or a list of octets. -/
def readBytes : Value → Except PayloadError Bytes
  | .bytes bs => .ok bs
  | .list items => items.mapM readOctet
  | v => .error (.mismatch (.kind (foundKind v) .byteArray))

/-- An identifier. -/
def readId (v : Value) : Except PayloadError Id := do
  let bs ← readBytes v
  (Id.ofBytes bs).mapError .id

/-- Contacts in compact form. -/
def readContacts (v : Value) : Except PayloadError (List Contact) := do
  let bs ← readBytes v
  (Contact.ofCompactAll bs).mapError .contacts

/-- A number that is not negative. -/
def readCount : Value → Except PayloadError Nat
  | .int n =>
    if 0 ≤ n.toInt then .ok n.toInt.toNat
    else .error (.mismatch (.range (.integer n) .count))
  | v => .error (.mismatch (.kind (foundKind v) .count))

/-- A list of byte strings. -/
def readValues : Value → Except PayloadError (List Bytes)
  | .list items => items.mapM readBytes
  | v => .error (.mismatch (.kind (foundKind v) .sequence))

/-- A count as a value, if an integer can hold it. -/
def countValue (n : Nat) : Except PayloadError Value :=
  if n ≤ Int64.maxValue.toInt then .ok (.int (Int64.ofInt n)) else .error (.countTooLarge n)

/-- A field of a payload: its key, its name in error texts and how its value is read. -/
structure Field (α : Type) where
  key : Bytes
  name : String
  read : Value → Except PayloadError α

namespace Field

/-- The identifier of the requester or responder. -/
def id : Field Id := ⟨Key.id, "id", readId⟩

/-- The target of a lookup. -/
def target : Field Id := ⟨[116, 97, 114, 103, 101, 116], "target", readId⟩

/-- The key of some values. -/
def valueKey : Field Id := ⟨[107, 101, 121], "key", readId⟩

/-- How many values there are, or are wanted. -/
def num : Field Nat := ⟨[110, 117, 109], "num", readCount⟩

/-- A value to store. -/
def value : Field Bytes := ⟨[118, 97, 108, 117, 101], "value", readBytes⟩

/-- A write token. -/
def token : Field Bytes := ⟨[116, 111, 107, 101, 110], "token", readBytes⟩

/-- Contacts close to a target. -/
def nodes : Field (List Contact) := ⟨[110, 111, 100, 101, 115], "nodes", readContacts⟩

/-- Stored values. -/
def values : Field (List Bytes) := ⟨Key.values, "values", readValues⟩

/-- Whether a value can be read as this field. -/
def check {α : Type} (f : Field α) : Bytes × (Value → Except PayloadError Unit) :=
  (f.key, fun v => discard (f.read v))

/-- The field of a dictionary, which has to be there. -/
def require {α : Type} (f : Field α) (d : Dict) : Except PayloadError α :=
  match d.get? f.key with
  | some v => f.read v
  | none => .error (.missing f.name)

/-- The field of a dictionary, or what stands for it when it is not there. -/
def getD {α : Type} (f : Field α) (d : Dict) (default : α) : Except PayloadError α :=
  match d.get? f.key with
  | some v => f.read v
  | none => .ok default

end Field

/-- Check every entry in the order of the keys: all keys are text, and known ones have good values. -/
def checkEntries (d : Dict) (checks : List (Bytes × (Value → Except PayloadError Unit))) :
    Except PayloadError Unit :=
  d.entries.forM fun (k, v) =>
    if (Utf8.decode? k).isNone then .error (.mismatch (.range .byteArray .text))
    else
      match checks.find? fun c => c.1 == k with
      | some c => c.2 v
      | none => .ok ()

/-- Types with a dictionary form. -/
class Payload (α : Type) where
  /-- The dictionary of a payload; there is none only for a count that is too large. -/
  toDict : α → Except PayloadError Dict
  /-- The payload of a dictionary. -/
  ofDict : Dict → Except PayloadError α

/-- Ask whether a node is there. -/
structure Ping.Arguments where
  id : Id
  deriving DecidableEq, Repr

/-- It is. -/
structure Ping.Answer where
  id : Id
  deriving DecidableEq, Repr

/-- Ask for contacts close to a target. -/
structure FindNode.Arguments where
  id : Id
  target : Id
  deriving DecidableEq, Repr

/-- Contacts close to the target, and a token to store values with. -/
structure FindNode.Answer where
  id : Id
  nodes : List Contact
  token : Bytes
  deriving DecidableEq, Repr

/-- Ask who holds values for a key. -/
structure FindValue.Arguments where
  id : Id
  key : Id
  deriving DecidableEq, Repr

/-- Contacts close to the key, a token, and how many values the responder holds. -/
structure FindValue.Answer where
  id : Id
  nodes : List Contact
  token : Bytes
  num : Nat
  deriving DecidableEq, Repr

/-- Ask for values of a key, all of them if `num` is zero. -/
structure GetValue.Arguments where
  id : Id
  key : Id
  num : Nat
  deriving DecidableEq, Repr

/-- Values of the key. -/
structure GetValue.Answer where
  id : Id
  values : List Bytes
  deriving DecidableEq, Repr

/-- Ask to store a value under a key. -/
structure StoreValue.Arguments where
  id : Id
  key : Id
  value : Bytes
  token : Bytes
  deriving DecidableEq, Repr

/-- It is stored. -/
structure StoreValue.Answer where
  id : Id
  deriving DecidableEq, Repr

/-- The entry of an identifier. -/
def idEntry (id : Id) : Entry :=
  (Field.id.key, .bytes id.bytes)

/-- The dictionary with nothing but an identifier. -/
def idDict (id : Id) : Dict :=
  Dict.ofEntries [idEntry id]

/-- Read nothing but an identifier. -/
def idOfDict (d : Dict) : Except PayloadError Id := do
  checkEntries d [Field.id.check]
  Field.id.require d

instance : Payload Ping.Arguments where
  toDict p := .ok (idDict p.id)
  ofDict d := Ping.Arguments.mk <$> idOfDict d

instance : Payload Ping.Answer where
  toDict p := .ok (idDict p.id)
  ofDict d := Ping.Answer.mk <$> idOfDict d

instance : Payload StoreValue.Answer where
  toDict p := .ok (idDict p.id)
  ofDict d := StoreValue.Answer.mk <$> idOfDict d

instance : Payload FindNode.Arguments where
  toDict p := .ok (Dict.ofEntries [idEntry p.id, (Field.target.key, .bytes p.target.bytes)])
  ofDict d := do
    checkEntries d [Field.id.check, Field.target.check]
    let id ← Field.id.require d
    let target ← Field.target.require d
    .ok { id, target }

instance : Payload FindNode.Answer where
  toDict p := .ok (Dict.ofEntries
    [idEntry p.id, (Field.nodes.key, .bytes (Contact.compactAll p.nodes)), (Field.token.key, .bytes p.token)])
  ofDict d := do
    checkEntries d [Field.id.check, Field.nodes.check, Field.token.check]
    let id ← Field.id.require d
    let nodes ← Field.nodes.getD d []
    let token ← Field.token.getD d []
    .ok { id, nodes, token }

instance : Payload FindValue.Arguments where
  toDict p := .ok (Dict.ofEntries [idEntry p.id, (Field.valueKey.key, .bytes p.key.bytes)])
  ofDict d := do
    checkEntries d [Field.id.check, Field.valueKey.check]
    let id ← Field.id.require d
    let key ← Field.valueKey.require d
    .ok { id, key }

instance : Payload FindValue.Answer where
  toDict p := do
    let num ← countValue p.num
    .ok (Dict.ofEntries
      [idEntry p.id, (Field.nodes.key, .bytes (Contact.compactAll p.nodes)), (Field.num.key, num),
        (Field.token.key, .bytes p.token)])
  ofDict d := do
    checkEntries d [Field.id.check, Field.nodes.check, Field.token.check, Field.num.check]
    let id ← Field.id.require d
    let nodes ← Field.nodes.getD d []
    let token ← Field.token.getD d []
    let num ← Field.num.getD d 0
    .ok { id, nodes, token, num }

instance : Payload GetValue.Arguments where
  toDict p := do
    let num ← countValue p.num
    .ok (Dict.ofEntries [idEntry p.id, (Field.valueKey.key, .bytes p.key.bytes), (Field.num.key, num)])
  ofDict d := do
    checkEntries d [Field.id.check, Field.valueKey.check, Field.num.check]
    let id ← Field.id.require d
    let key ← Field.valueKey.require d
    let num ← Field.num.getD d 0
    .ok { id, key, num }

instance : Payload GetValue.Answer where
  toDict p := .ok (Dict.ofEntries [idEntry p.id, (Field.values.key, .list (p.values.map .bytes))])
  ofDict d := do
    checkEntries d [Field.id.check, Field.values.check]
    let id ← Field.id.require d
    let values ← Field.values.getD d []
    .ok { id, values }

instance : Payload StoreValue.Arguments where
  toDict p := .ok (Dict.ofEntries
    [idEntry p.id, (Field.valueKey.key, .bytes p.key.bytes), (Field.value.key, .bytes p.value),
      (Field.token.key, .bytes p.token)])
  ofDict d := do
    checkEntries d [Field.id.check, Field.valueKey.check, Field.value.check, Field.token.check]
    let id ← Field.id.require d
    let key ← Field.valueKey.require d
    let value ← Field.value.require d
    let token ← Field.token.require d
    .ok { id, key, value, token }

end Kademlia.Wire
