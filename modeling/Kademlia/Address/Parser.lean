import Kademlia.Address
/-!
# Reading socket addresses

Readers take characters from the front of a text and return what is left. Decimal octets have no
leading zeros, ports may have some; a double colon stands for at least one zero group, and the last
two groups may be written in dotted form.
-/

namespace Kademlia.Address

/-- A reader of `α` from the front of a text. -/
abbrev Reader (α : Type) := List Char → Option (α × List Char)

/-- The value of a digit in a base up to sixteen. -/
def digit? (base : Nat) (c : Char) : Option Nat :=
  let value :=
    if '0' ≤ c ∧ c ≤ '9' then some (c.toNat - 48)
    else if 'a' ≤ c ∧ c ≤ 'f' then some (c.toNat - 87)
    else if 'A' ≤ c ∧ c ≤ 'F' then some (c.toNat - 55)
    else none
  value.filter (· < base)

/-- The digits at the front of a text, and the rest. -/
def digits (base : Nat) : List Char → List Nat × List Char
  | [] => ([], [])
  | c :: cs =>
    match digit? base c with
    | none => ([], c :: cs)
    | some d => let (ds, rest) := digits base cs; (d :: ds, rest)

/-- A number below `limit`, of all the digits that follow, at most `most` of them. -/
def number (base : Nat) (most : Option Nat) (leadingZeros : Bool) (limit : Nat) : Reader Nat := fun cs =>
  let (ds, rest) := digits base cs
  let value := ds.foldl (fun n d => n * base + d) 0
  if ds.isEmpty || most.any (· < ds.length) || limit ≤ value then none
  else if !leadingZeros && ds.head? == some 0 && 1 < ds.length then none
  else some (value, rest)

/-- One given character. -/
def char (c : Char) : Reader Unit
  | [] => none
  | d :: ds => if d = c then some ((), ds) else none

/-- A decimal octet. -/
def octet : Reader UInt8 := fun cs => do
  let (n, cs) ← number 10 (some 3) false 256 cs
  some (UInt8.ofNat n, cs)

/-- Four decimal octets with dots. -/
def dottedQuad : Reader (UInt8 × UInt8 × UInt8 × UInt8) := fun cs => do
  let (a, cs) ← octet cs
  let (_, cs) ← char '.' cs
  let (b, cs) ← octet cs
  let (_, cs) ← char '.' cs
  let (c, cs) ← octet cs
  let (_, cs) ← char '.' cs
  let (d, cs) ← octet cs
  some ((a, b, c, d), cs)

/-- What follows a separating colon, which the first item goes without. -/
def separated {α : Type} (first : Bool) (item : Reader α) : Reader α := fun cs =>
  if first then item cs else do
    let (_, cs) ← char ':' cs
    item cs

/-- Up to `limit` groups; tells whether they end in dotted form. -/
def groups : Nat → Bool → List Char → List UInt16 × Bool × List Char
  | 0, _, cs => ([], false, cs)
  | limit + 1, first, cs =>
    match (if limit = 0 then none else separated first dottedQuad cs) with
    | some ((a, b, c, d), rest) =>
      ([a.toUInt16 <<< 8 ||| b.toUInt16, c.toUInt16 <<< 8 ||| d.toUInt16], true, rest)
    | none =>
      match separated first (number 16 (some 4) true 65536) cs with
      | none => ([], false, cs)
      | some (g, rest) =>
        let (gs, dotted, rest) := groups limit false rest
        (UInt16.ofNat g :: gs, dotted, rest)

/-- Eight groups, some of them perhaps elided. -/
def eightGroups : Reader (List UInt16) := fun cs =>
  let (head, dotted, cs) := groups 8 true cs
  if head.length = 8 then some (head, cs)
  else if dotted then none
  else do
    let (_, cs) ← char ':' cs
    let (_, cs) ← char ':' cs
    let (tail, _, cs) := groups (8 - (head.length + 1)) true cs
    some (head ++ List.replicate (8 - head.length - tail.length) 0 ++ tail, cs)

/-- A colon and a port. -/
def portSuffix : Reader UInt16 := fun cs => do
  let (_, cs) ← char ':' cs
  let (n, cs) ← number 10 none true 65536 cs
  some (UInt16.ofNat n, cs)

/-- An address of the older family. -/
def readV4 : Reader Address := fun cs => do
  let ((a, b, c, d), cs) ← dottedQuad cs
  let (port, cs) ← portSuffix cs
  some (⟨.v4 a b c d, port⟩, cs)

/-- A percent sign and a zone, or neither. -/
def zoneSuffix : Reader UInt32
  | '%' :: cs => do
    let (n, cs) ← number 10 none true UInt32.size cs
    some (UInt32.ofNat n, cs)
  | cs => some (0, cs)

/-- An address of the newer family, in brackets. -/
def readV6 : Reader Address := fun cs => do
  let (_, cs) ← char '[' cs
  let (gs, cs) ← eightGroups cs
  let (zone, cs) ← zoneSuffix cs
  let (_, cs) ← char ']' cs
  let (port, cs) ← portSuffix cs
  if h : gs.toArray.size = 8 then some (⟨.v6 ⟨gs.toArray, h⟩ zone, port⟩, cs) else none

/-- The address written by a text. -/
def parse? (s : String) : Option Address :=
  match readV4 s.toList with
  | some (a, []) => some a
  | _ =>
    match readV6 s.toList with
    | some (a, []) => some a
    | _ => none

end Kademlia.Address
