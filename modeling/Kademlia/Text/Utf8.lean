import Kademlia.Bytes
/-!
# UTF-8

Text as octets. Strict reading refuses ill-formed octets; repairing reading puts the replacement
character in place of each maximal ill-formed part, and leaves well-formed text as it is.
-/

namespace Kademlia.Utf8

/-- The octets of a text. -/
def encode (s : String) : Bytes :=
  s.toByteArray.data.toList

/-- The text with these octets, none if they are not well formed. -/
def decode? (bs : Bytes) : Option String :=
  String.fromUTF8? ⟨bs.toArray⟩

/-- Is `b` a continuation octet? -/
def isTail (b : UInt8) : Bool :=
  0x80 ≤ b && b ≤ 0xBF

/-- The number of octets after the lead octet `b`, and the range its second octet has to be in. -/
def lead? (b : UInt8) : Option (Nat × UInt8 × UInt8) :=
  if 0xC2 ≤ b && b ≤ 0xDF then some (1, 0x80, 0xBF)
  else if b = 0xE0 then some (2, 0xA0, 0xBF)
  else if b = 0xED then some (2, 0x80, 0x9F)
  else if 0xE1 ≤ b && b ≤ 0xEF then some (2, 0x80, 0xBF)
  else if b = 0xF0 then some (3, 0x90, 0xBF)
  else if b = 0xF4 then some (3, 0x80, 0x8F)
  else if 0xF1 ≤ b && b ≤ 0xF3 then some (3, 0x80, 0xBF)
  else none

/-- How many of the octets after the lead octet `b` continue it, and whether they complete it. -/
def continuation (b : UInt8) (rest : Bytes) : Nat × Bool :=
  match lead? b with
  | none => (0, false)
  | some (more, low, high) =>
    match rest with
    | [] => (0, false)
    | second :: others =>
      if low ≤ second && second ≤ high then
        let tails := ((others.take (more - 1)).takeWhile isTail).length
        (tails + 1, tails + 1 = more)
      else (0, false)

/-- The code point of a lead octet and its continuation octets. -/
def codePoint (b : UInt8) (tails : Bytes) : Nat :=
  let payload := if tails.length = 1 then b.toNat % 32 else if tails.length = 2 then b.toNat % 16 else b.toNat % 8
  tails.foldl (fun n t => n * 64 + t.toNat % 64) payload

/-- The characters of `bs`, one replacement character for each maximal ill-formed part. -/
def repair : Bytes → List Char
  | [] => []
  | b :: rest =>
    if b < 0x80 then Char.ofNat b.toNat :: repair rest
    else
      let (used, complete) := continuation b rest
      (if complete then Char.ofNat (codePoint b (rest.take used)) else '\uFFFD') :: repair (rest.drop used)
termination_by bs => bs.length
decreasing_by
  · simp
  · simp only [List.length_drop, List.length_cons]
    omega

/-- The text of `bs`, repaired where it is ill formed. -/
def decodeLossy (bs : Bytes) : String :=
  (decode? bs).getD (String.ofList (repair bs))

end Kademlia.Utf8
