import Kademlia.Bencode.Dict
import Kademlia.Bencode.Decoder
import Kademlia.Id
/-!
# Messages

A datagram is one bencoded dictionary: a transaction identifier, perhaps a version, and a request,
a response or an error. An envelope of another type keeps its transaction and its type.
`Message.decode` checks the type first, then the fields of that type, then the transaction.
-/

namespace Kademlia.Wire

open Bencode

/-- The keys of the envelope, and of the entries every payload may have. -/
def Key.a : Bytes := [97]

/-- Error. -/
def Key.e : Bytes := [101]

/-- Method. -/
def Key.q : Bytes := [113]

/-- Response. -/
def Key.r : Bytes := [114]

/-- Transaction. -/
def Key.t : Bytes := [116]

/-- Version. -/
def Key.v : Bytes := [118]

/-- Type of the message. -/
def Key.y : Bytes := [121]

/-- The ASCII letters `id`. -/
def Key.id : Bytes := [105, 100]

/-- The ASCII letters `values`. -/
def Key.values : Bytes := [118, 97, 108, 117, 101, 115]

/-- An error that one node reports to another. -/
structure ProtocolError where
  code : Int64
  description : String
  deriving DecidableEq, Repr

namespace ProtocolError

/-- A failure inside the responder. -/
def server (description : String) : ProtocolError :=
  ⟨201, description⟩

/-- A method the responder does not know. -/
def methodUnknown (method : String) : ProtocolError :=
  ⟨203, s!"unknown method {method}"⟩

/-- Arguments the responder cannot read. -/
def malformedRequest (description : String) : ProtocolError :=
  ⟨204, description⟩

/-- A write token the responder does not accept. -/
def invalidToken : ProtocolError :=
  ⟨205, "invalid token"⟩

/-- A response that does not fit into a datagram. -/
def responseTooLong (length : Nat) : ProtocolError :=
  ⟨206, s!"response was {length} bytes"⟩

/-- Code and description. -/
def message (e : ProtocolError) : String :=
  s!"{e.code.toInt} {e.description}"

end ProtocolError

/-- A method with its arguments. -/
structure Query where
  method : String
  arguments : Dict

/-- What a message says. -/
inductive Body where
  | request (query : Query)
  | response (payload : Dict)
  | error (error : ProtocolError)
  /-- A well-formed envelope of another type. -/
  | unknown (type : Bytes)

/-- A message of one node to another. -/
structure Message where
  transaction : Bytes
  version : Option Bytes
  body : Body

/-- Why a bencoded value is no message. -/
inductive EnvelopeError where
  | notDictionary
  | noType
  | typeNotString
  | noMethod
  | methodNotString
  | noArguments
  | argumentsNotDictionary
  | noResponse
  | responseNotDictionary
  | noError
  | errorNotList
  | errorNotPair
  | errorItems
  | noTransaction
  | transactionNotString
  deriving DecidableEq, Repr

/-- The text of an envelope error. -/
def EnvelopeError.message : EnvelopeError → String
  | notDictionary => "not a dictionary"
  | noType => "no message type"
  | typeNotString => "message type is not a string"
  | noMethod => "request type not specified"
  | methodNotString => "request type is not a string"
  | noArguments => "no arguments for request"
  | argumentsNotDictionary => "arguments for request are not in a dictionary"
  | noResponse => "response not specified"
  | responseNotDictionary => "response is not a dictionary"
  | noError => "error not specified"
  | errorNotList => "error is not a list"
  | errorNotPair => "error is not a 2-element list"
  | errorItems => "error is not [int, string]"
  | noTransaction => "no transaction ID specified"
  | transactionNotString => "transaction id is not a string"

/-- Why octets are no message. -/
inductive MessageError where
  | bencode (error : DecodeError)
  | envelope (error : EnvelopeError)
  deriving DecidableEq, Repr

/-- The text of a message error. -/
def MessageError.message : MessageError → String
  | bencode error => s!"Failed to parse packet bytes: {error.message}"
  | envelope error => s!"Malformed message: {error.message}"

/-- The identifier a payload or some arguments carry, if it is well formed. -/
def authorOf (d : Dict) : Option Id :=
  (d.getBytes? Key.id).bind Id.ofBytes?

namespace Body

/-- The entries of the envelope before the transaction, in the order of their keys. -/
def entries : Body → List Entry
  | request query =>
    [(Key.a, query.arguments.toValue), (Key.q, .bytes (Utf8.encode query.method))]
  | response payload => [(Key.r, payload.toValue)]
  | error e => [(Key.e, .list [.int e.code, .bytes (Utf8.encode e.description)])]
  | unknown _ => []

/-- The value of the type field. -/
def type : Body → Bytes
  | request _ => Key.q
  | response _ => Key.r
  | error _ => Key.e
  | unknown type => type

end Body

namespace Message

/-- The envelope as a dictionary, its keys in ascending order. -/
def toValue (m : Message) : Value :=
  .dict (m.body.entries ++ [(Key.t, .bytes m.transaction)]
    ++ (m.version.map fun v => (Key.v, Value.bytes v)).toList ++ [(Key.y, .bytes m.body.type)])

/-- The datagram of a message. -/
def encode (m : Message) : Bytes :=
  m.toValue.encode

/-- The method and arguments of a request envelope. -/
def queryOf (d : Dict) : Except EnvelopeError Query := do
  let method ← match d.get? Key.q with
    | some (.bytes q) =>
      match Utf8.decode? q with
      | some method => .ok method
      | none => .error .methodNotString
    | some _ => .error .methodNotString
    | none => .error .noMethod
  match d.get? Key.a with
  | some (.dict arguments) => .ok ⟨method, Dict.ofEntries arguments⟩
  | some _ => .error .argumentsNotDictionary
  | none => .error .noArguments

/-- The payload of a response envelope. -/
def payloadOf (d : Dict) : Except EnvelopeError Dict :=
  match d.get? Key.r with
  | some (.dict payload) => .ok (Dict.ofEntries payload)
  | some _ => .error .responseNotDictionary
  | none => .error .noResponse

/-- The code and description of an error envelope, the description repaired to well-formed text. -/
def errorOf (d : Dict) : Except EnvelopeError ProtocolError :=
  match d.get? Key.e with
  | some (.list [.int code, .bytes description]) => .ok ⟨code, Utf8.decodeLossy description⟩
  | some (.list [_, _]) => .error .errorItems
  | some (.list _) => .error .errorNotPair
  | some _ => .error .errorNotList
  | none => .error .noError

/-- The message of an envelope. -/
def ofDict (d : Dict) : Except EnvelopeError Message := do
  let type ← match d.get? Key.y with
    | some (.bytes type) => .ok type
    | some _ => .error .typeNotString
    | none => .error .noType
  let body ←
    if type = Key.q then Body.request <$> queryOf d
    else if type = Key.r then Body.response <$> payloadOf d
    else if type = Key.e then Body.error <$> errorOf d
    else .ok (Body.unknown type)
  let transaction ← match d.get? Key.t with
    | some (.bytes transaction) => .ok transaction
    | some _ => .error .transactionNotString
    | none => .error .noTransaction
  .ok ⟨transaction, d.getBytes? Key.v, body⟩

/-- The message at the front of a datagram. -/
def decode (bs : Bytes) : Except MessageError Message :=
  match Bencode.decode bs with
  | .error e => .error (.bencode e)
  | .ok (.dict entries, _) => (ofDict (Dict.ofEntries entries)).mapError .envelope
  | .ok _ => .error (.envelope .notDictionary)

/-- The identifier of the requester or responder, if any. -/
def author (m : Message) : Option Id :=
  match m.body with
  | .request query => authorOf query.arguments
  | .response payload => authorOf payload
  | .error _ | .unknown _ => none

/-- How long the written form of a list is whose items have these lengths. -/
def listLength (lengths : List Nat) : Nat :=
  lengths.foldr (· + ·) 2

/-- How many items to leave out to save `excess` octets, if all items were equally long: the quotient
of `excess` and their mean length, rounded up. -/
def proportion (lengths : List Nat) (excess : Nat) : Nat :=
  let items := listLength lengths - 2
  (excess * lengths.length + items - 1) / items

/-- Take in further items until the list of those taken has `room` octets, or no item is left. The
items taken are in reverse order. -/
def takeIn (room : Nat) : (length : Nat) → (taken left : List Nat) → Nat × List Nat
  | length, taken, [] => (length, taken)
  | length, taken, n :: left =>
    if length < room then takeIn room (length + n) (n :: taken) left else (length, taken)

/-- Give items back, the last one first, until the list of those taken has at most `room` octets, and
count the others. -/
def giveBack (room : Nat) : (length : Nat) → (taken : List Nat) → Nat
  | _, [] => 0
  | length, n :: taken =>
    if room < length then giveBack room (length - n) taken else taken.length + 1

/-- How many items from the front of a list can stay if its written form has to lose `excess` octets,
none if it is too long even without items. Where the search starts is left to `skip`, which says how
many items to leave out at first; from there it goes up and then down to the exact number. -/
def itemsWithin (skip : List Nat → Nat → Nat) (lengths : List Nat) (excess : Nat) : Option Nat :=
  let whole := listLength lengths
  if whole < excess + 2 then none
  else
    let room := whole - excess
    let start := lengths.length - skip lengths excess
    let first := lengths.take start
    let (length, taken) := takeIn room (listLength first) first.reverse (lengths.drop start)
    some (giveBack room length taken)

/-- The message with a response payload in place of its body. -/
def withPayload (m : Message) (payload : Dict) : Message :=
  { m with body := .response payload }

/-- The datagram of a message in at most `limit` octets, as far as that is possible: a response that
is too long is sent with the longest front part of its `values` that fits, or else as an error.
Requests and errors are not shortened. -/
def encodeWithinFrom (skip : List Nat → Nat → Nat) (m : Message) (limit : Nat) : Bytes :=
  let full := m.encode
  if full.length ≤ limit then full
  else
    match m.body with
    | .response payload =>
      let tooLong := { m with body := .error (.responseTooLong full.length) }.encode
      match payload.get? Key.values with
      | some (.list values) =>
        match itemsWithin skip (values.map fun v => v.encode.length) (full.length - limit) with
        | some count =>
          let kept := payload.insert Key.values (.list (values.take count))
          let shortened := (m.withPayload kept).encode
          if shortened.length ≤ limit then shortened else tooLong
        | none => tooLong
      | _ => tooLong
    | _ => full

/-- The datagram of a message in at most `limit` octets, searched for from an estimate. -/
def encodeWithin : Message → (limit : Nat) → Bytes :=
  encodeWithinFrom proportion

end Message

end Kademlia.Wire
