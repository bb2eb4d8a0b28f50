import Kademlia.Bytes
/-!
# CRC-32C

The Castagnoli checksum of a byte string: reflected, all ones at the start, inverted at the end.
-/

namespace Kademlia.Crc32c

/-- The reflected generator polynomial. -/
def polynomial : BitVec 32 := 0x82F63B78#32

/-- Divide by one more bit. -/
def bitStep (r : BitVec 32) : BitVec 32 :=
  (r >>> 1) ^^^ (if r.getLsbD 0 then polynomial else 0#32)

/-- Divide by `n` more bits. -/
def bitSteps : Nat → BitVec 32 → BitVec 32
  | 0, r => r
  | n + 1, r => bitSteps n (bitStep r)

/-- The remainder after one more octet. -/
def step (r : BitVec 32) (b : UInt8) : BitVec 32 :=
  bitSteps 8 (r ^^^ b.toBitVec.setWidth 32)

/-- The remainder after a message, from the remainder `r`. -/
def update (r : BitVec 32) (bs : Bytes) : BitVec 32 :=
  bs.foldl step r

/-- The checksum of a message. -/
def checksum (bs : Bytes) : BitVec 32 :=
  ~~~update (BitVec.allOnes 32) bs

end Kademlia.Crc32c
