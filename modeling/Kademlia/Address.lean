import Kademlia.Bytes
/-!
# Socket addresses

An IP address of either family with a port, its tests for the own host, and its canonical text.
-/

namespace Kademlia

/-- An IP address. -/
inductive Ip where
  /-- Four octets. -/
  | v4 (a b c d : UInt8)
  /-- Eight groups of sixteen bits, and the zone in which they name a host, zero if it is left open. -/
  | v6 (groups : Vector UInt16 8) (zone : UInt32)
  deriving DecidableEq, Repr

namespace Ip

/-- The octets in network order; the zone is not among them. -/
def octets : Ip → Bytes
  | v4 a b c d => [a, b, c, d]
  | v6 groups _ => groups.toList.flatMap fun (g : UInt16) => [(g >>> 8).toUInt8, g.toUInt8]

/-- Is it the address of the own host? -/
def isLoopback : Ip → Bool
  | v4 a _ _ _ => a == 127
  | v6 groups _ => groups == #v[0, 0, 0, 0, 0, 0, 0, 1]

/-- Is it the address that stands for any? -/
def isUnspecified : Ip → Bool
  | v4 a b c d => a == 0 && b == 0 && c == 0 && d == 0
  | v6 groups _ => groups == #v[0, 0, 0, 0, 0, 0, 0, 0]

/-- Is it of the older family? -/
def isV4 : Ip → Bool
  | v4 .. => true
  | v6 .. => false

end Ip

/-- An IP address and a port. -/
structure Address where
  ip : Ip
  port : UInt16
  deriving DecidableEq, Repr

end Kademlia
