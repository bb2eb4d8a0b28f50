import Kademlia.Address
import Kademlia.Id
/-!
# Contacts

A contact is the identifier of a node with the address it is reached at. During a lookup it also
carries the node's write token and how many values the node announced. Only identifier and address
travel: 26 octets for an address of the older family, nothing for one of the newer.
-/

namespace Kademlia

/-- A node as known to the routing table or to a lookup. -/
structure Contact where
  id : Id
  address : Address
  /-- The token the node handed out, needed to store a value at it. -/
  token : Option Bytes := none
  /-- How many values the node announced for the key looked up. -/
  announced : Nat := 0
  deriving DecidableEq, Repr

namespace Contact

/-- Identifier and address alone. -/
def bare (c : Contact) : Contact :=
  ⟨c.id, c.address, none, 0⟩

/-- Replace the token; an empty one clears it. -/
def withToken (c : Contact) (token : Bytes) : Contact :=
  { c with token := if token.isEmpty then none else some token }

/-- Replace the number of announced values. -/
def withAnnounced (c : Contact) (announced : Nat) : Contact :=
  { c with announced }

/-- Do both contacts name the same node at the same address? -/
def same (a b : Contact) : Bool :=
  a.id == b.id && a.address == b.address

/-- The 26 octets of a contact whose address is of the older family. -/
def compact (c : Contact) : Bytes :=
  match c.address.ip with
  | .v4 a b d e => c.id.bytes ++ [a, b, d, e, (c.address.port >>> 8).toUInt8, c.address.port.toUInt8]
  | .v6 .. => []

/-- The octets of several contacts; those of the newer family are left out. -/
def compactAll (cs : List Contact) : Bytes :=
  cs.flatMap compact

/-- Octets that are no whole number of contacts. -/
inductive CompactError where
  | length
  deriving DecidableEq, Repr

/-- The text of a compact error. -/
def CompactError.message : CompactError → String
  | length => "Invalid compact info: wrong number of bytes for nodes message"

/-- The contact of 26 octets. -/
def ofCompact? (bs : Bytes) : Option Contact :=
  match Id.ofBytes? (bs.take 20), bs.drop 20 with
  | some id, [a, b, c, d, high, low] =>
    some { id, address := ⟨.v4 a b c d, high.toUInt16 <<< 8 ||| low.toUInt16⟩ }
  | _, _ => none

/-- `n` contacts of 26 octets each. -/
def ofCompactRun? : (n : Nat) → Bytes → Option (List Contact)
  | 0, _ => some []
  | n + 1, bs => do
    let c ← ofCompact? (bs.take 26)
    let cs ← ofCompactRun? n (bs.drop 26)
    some (c :: cs)

/-- The contacts of a whole number of 26 octets. -/
def ofCompactAll (bs : Bytes) : Except CompactError (List Contact) :=
  if bs.length % 26 = 0 then
    match ofCompactRun? (bs.length / 26) bs with
    | some cs => .ok cs
    | none => .error .length
  else .error .length

end Contact

end Kademlia
