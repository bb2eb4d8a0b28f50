import Kademlia.Digest.Sha1
/-!
# Identifiers

Nodes and keys are named by 160 bits. Their nearness is the exclusive or of the names, read as a
big-endian number; `Id.distance` is its bit length, which names the bucket of a contact.
-/

namespace Kademlia

/-- Twenty octets naming a node or a key. -/
structure Id where
  bytes : Bytes
  length_bytes : bytes.length = 20
  deriving DecidableEq, Repr

namespace Id

/-- Octets of a wrong number offered as an identifier. -/
structure SizeError where
  got : Nat
  deriving DecidableEq, Repr

/-- The text of a size error. -/
def SizeError.message (e : SizeError) : String :=
  s!"Invalid Id size, expected 20, got {e.got}"

/-- The identifier with these octets. -/
def ofBytes (bs : Bytes) : Except SizeError Id :=
  if h : bs.length = 20 then .ok ⟨bs, h⟩ else .error ⟨bs.length⟩

/-- The identifier with these octets, if there are twenty. -/
def ofBytes? (bs : Bytes) : Option Id :=
  if h : bs.length = 20 then some ⟨bs, h⟩ else none

/-- The identifier whose hexadecimal text starts like this and goes on with zeros. -/
def ofHexStart? (s : String) : Option Id :=
  (Bytes.ofHex? (s ++ String.ofList (List.replicate (40 - s.length) '0'))).bind ofBytes?

/-- The SHA-1 hash of some data, a key to store it under. -/
def ofData (data : Bytes) : Id :=
  ⟨Sha1.digest data, Sha1.length_digest data⟩

/-- Exclusive or of two identifiers. -/
def xor (a b : Id) : Id :=
  ⟨Bytes.xor a.bytes b.bytes, by simp [a.length_bytes, b.length_bytes]⟩

/-- The identifier as a 160-bit number. -/
def toNat (a : Id) : Nat :=
  Bytes.toNat a.bytes

/-- The number of bits after the common first bits: 0 to oneself, at most 160. -/
def distance (a b : Id) : Nat :=
  160 - Bytes.leadingZeros (xor a b).bytes

theorem distance_le (a b : Id) : distance a b ≤ 160 :=
  Nat.sub_le _ _

/-- Compare as strings of octets. -/
instance : Ord Id where
  compare a b := compare a.bytes b.bytes

/-- Compare the distances of `a` and `b` to `target`. -/
def compareDistance (target a b : Id) : Ordering :=
  compare (a.xor target) (b.xor target)

/-- Is `a` no farther from `target` than `b`? -/
def nearer (target a b : Id) : Bool :=
  (compareDistance target a b).isLE

/-- Forty hexadecimal digits. -/
def hex (a : Id) : String :=
  Bytes.hex a.bytes

end Id

end Kademlia
