import Kademlia.Address
/-!
# Text of socket addresses

Dotted decimal and RFC 5952: lowercase groups without leading zeros, the first longest run of at
least two zero groups as a double colon, and a mapped address of the older family in dotted form. A
zone follows after a percent sign.
-/

namespace Kademlia.Ip

/-- Four decimal octets with dots. -/
def dotted (a b c d : UInt8) : String :=
  s!"{a.toNat}.{b.toNat}.{c.toNat}.{d.toNat}"

/-- How many groups at the front are zero. -/
def zeroRun (groups : List UInt16) : Nat :=
  (groups.takeWhile (· == 0)).length

/-- Start and length of the first longest run of zero groups. -/
def longestZeroRun (groups : List UInt16) : Nat × Nat :=
  (List.range groups.length).foldl
    (fun best start =>
      let run := zeroRun (groups.drop start)
      if best.2 < run then (start, run) else best)
    (0, 0)

/-- Groups in hexadecimal, separated by colons. -/
def colons (groups : List UInt16) : String :=
  ":".intercalate (groups.map fun g => String.ofList (Nat.toDigits 16 g.toNat))

/-- The text of eight groups. -/
def textOfGroups (groups : List UInt16) : String :=
  match groups with
  | [0, 0, 0, 0, 0, 0xFFFF, high, low] =>
    "::ffff:" ++ dotted (high >>> 8).toUInt8 high.toUInt8 (low >>> 8).toUInt8 low.toUInt8
  | _ =>
    let (start, run) := longestZeroRun groups
    if run < 2 then colons groups
    else colons (groups.take start) ++ "::" ++ colons (groups.drop (start + run))

/-- The text of an IP address. -/
def text : Ip → String
  | v4 a b c d => dotted a b c d
  | v6 groups zone =>
    if zone = 0 then textOfGroups groups.toList else s!"{textOfGroups groups.toList}%{zone.toNat}"

end Kademlia.Ip

namespace Kademlia.Address

/-- The text of a socket address. -/
def text (a : Address) : String :=
  match a.ip with
  | .v4 .. => s!"{a.ip.text}:{a.port.toNat}"
  | .v6 .. => s!"[{a.ip.text}]:{a.port.toNat}"

end Kademlia.Address
