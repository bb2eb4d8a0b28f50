import Kademlia.Address.Parser
/-!
# Resolving hosts

A text of a host and a port leads to an address even if it is not the address as such. Where
`Address.parse?` has no answer, the host may stand in numbers-and-dots notation: up to four numbers,
each octal after a zero and hexadecimal after `0x`. The last number fills all the octets that the
others leave, so a host of one number is a number of 32 bits. The port may have a plus sign. Names
lead nowhere here.
-/

namespace Kademlia.Address

/-- A number below 2^32, in the base its first characters tell. -/
def basedNumber : Reader Nat
  | '0' :: x :: c :: cs =>
    if (x = 'x' ∨ x = 'X') ∧ (digit? 16 c).isSome then number 16 none true UInt32.size (c :: cs)
    else number 8 none true UInt32.size ('0' :: x :: c :: cs)
  | '0' :: cs => number 8 none true UInt32.size ('0' :: cs)
  | cs => number 10 none true UInt32.size cs

/-- Numbers separated by dots up to the end of a text, at most `more` besides the first one. -/
def dottedNumbers : (more : Nat) → List Char → Option (List Nat)
  | more, cs => do
    let (n, rest) ← basedNumber cs
    match rest, more with
    | [], _ => some [n]
    | '.' :: rest, more + 1 => (n :: ·) <$> dottedNumbers more rest
    | _, _ => none

/-- The `width` octets of some numbers, an octet for each but the last one, which has the rest. -/
def octetsOf? : (width : Nat) → List Nat → Option Bytes
  | _, [] => none
  | width, [n] =>
    let bs := Bytes.ofNat width n
    if Bytes.toNat bs = n then some bs else none
  | 0, _ => none
  | width + 1, n :: ns => if n < 256 then (UInt8.ofNat n :: ·) <$> octetsOf? width ns else none

/-- The IP address of a host in numbers-and-dots notation. -/
def hostOf? (host : List Char) : Option Ip := do
  match octetsOf? 4 (← dottedNumbers 3 host) with
  | some [a, b, c, d] => some (.v4 a b c d)
  | _ => none

/-- The port of a text, perhaps after a plus sign. -/
def portOf? (port : List Char) : Option UInt16 :=
  match number 10 none true 65536 (if port.head? = some '+' then port.tail else port) with
  | some (n, []) => some (UInt16.ofNat n)
  | _ => none

/-- The address that the host before the last colon of a text and the port after it lead to. -/
def ofHostAndPort? (s : String) : Option Address :=
  let (port, host) := s.toList.reverse.span (· ≠ ':')
  match host with
  | [] => none
  | _ :: host => do some ⟨← hostOf? host.reverse, ← portOf? port.reverse⟩

/-- The address that a text of a host and a port leads to. -/
def resolve? (s : String) : Option Address :=
  (parse? s).or (ofHostAndPort? s)

end Kademlia.Address
