import Kademlia.Bencode.Encoder
import Kademlia.Text.Utf8
/-!
# Reading bencode

Reading takes one value from the front of some octets. It is more liberal than writing: integers may
have a plus sign or leading zeros, lengths may have leading zeros, keys may come in any order and
may be given as lists of octets. The first fault met from left to right is the one reported.
-/

namespace Kademlia.Bencode

/-- The kind of a value that stands where another one is wanted. -/
inductive Found where
  | integer (n : Int64)
  | byteArray
  | sequence
  | map
  deriving DecidableEq, Repr

/-- What is wanted of a value. -/
inductive Wanted where
  | byteArray
  | octet
  | count
  | sequence
  | text
  deriving DecidableEq, Repr

/-- A value that cannot be taken for what is wanted. -/
inductive Mismatch where
  /-- It is of another kind. -/
  | kind (found : Found) (wanted : Wanted)
  /-- It is of the right kind and out of range. -/
  | range (found : Found) (wanted : Wanted)
  deriving DecidableEq, Repr

/-- The name of a kind in error texts. -/
def Found.message : Found → String
  | integer n => s!"integer `{n.toInt}`"
  | byteArray => "byte array"
  | sequence => "sequence"
  | map => "map"

/-- The name of what is wanted in error texts. -/
def Wanted.message : Wanted → String
  | byteArray => "byte array"
  | octet => "u8"
  | count => "usize"
  | sequence => "a sequence"
  | text => "utf-8 string"

/-- The text of a mismatch. -/
def Mismatch.message : Mismatch → String
  | kind found wanted => s!"Invalid Type: {found.message} (expected: `{wanted.message}`)"
  | range found wanted => s!"Invalid Value: {found.message} (expected: `{wanted.message}`)"

/-- Why octets do not start with a value. -/
inductive DecodeError where
  /-- The value goes on after the last octet, or has no start where it should. -/
  | endOfStream
  /-- No value starts with this octet. -/
  | invalidCharacter (b : UInt8)
  /-- The text of an integer is none, or does not fit. -/
  | badInteger (text : String)
  /-- The text of a length is none, or does not fit. -/
  | badLength (text : String)
  /-- The text of a number is not text. -/
  | badText
  /-- A key is not a byte string. -/
  | badKey (mismatch : Mismatch)
  deriving DecidableEq, Repr

/-- The text of a decoding error. -/
def DecodeError.message : DecodeError → String
  | endOfStream => "End of stream"
  | invalidCharacter b => s!"Invalid character `{Char.ofNat b.toNat}`"
  | badInteger text => s!"Can't parse `{text}` as integer"
  | badLength text => s!"Can't parse `{text}` as string length"
  | badText => "Non UTF-8 integer encoding"
  | badKey mismatch => mismatch.message

/-- The octets before the first `stop`, and those after it. -/
def takeThrough (stop : UInt8) : Bytes → Option (Bytes × Bytes)
  | [] => none
  | b :: bs => if b = stop then some ([], bs) else (takeThrough stop bs).map fun (text, rest) => (b :: text, rest)

/-- The error for the text of a number that cannot be read. -/
def numberError (text : Bytes) (error : String → DecodeError) : DecodeError :=
  match Utf8.decode? text with
  | some s => error s
  | none => .badText

/-- What follows the opening of an integer. -/
def integer (bs : Bytes) : Except DecodeError (Int64 × Bytes) :=
  match takeThrough Mark.close bs with
  | none => .error .endOfStream
  | some (text, rest) =>
    match Decimal.toInt64? text with
    | some n => .ok (n, rest)
    | none => .error (numberError text .badInteger)

/-- Are there at least `n` octets? Those after them are not looked at. -/
def reaches : (n : Nat) → Bytes → Bool
  | 0, _ => true
  | _ + 1, [] => false
  | n + 1, _ :: bs => reaches n bs

theorem reaches_iff {n : Nat} {bs : Bytes} : reaches n bs = true ↔ n ≤ bs.length := by
  fun_induction reaches n bs <;> simp_all

/-- A byte string, from its length on. -/
def byteString (bs : Bytes) : Except DecodeError (Bytes × Bytes) :=
  match takeThrough Mark.colon bs with
  | none => .error .endOfStream
  | some (text, rest) =>
    match Decimal.toNatBelow? UInt64.size text with
    | some n => if reaches n rest then .ok (rest.take n, rest.drop n) else .error .endOfStream
    | none => .error (numberError text .badLength)

/-- What follows the opening of a list of octets; `fuel` bounds the number of steps. -/
def octets : (fuel : Nat) → Bytes → Except DecodeError (Bytes × Bytes)
  | 0, _ => .error .endOfStream
  | _ + 1, [] => .error .endOfStream
  | fuel + 1, b :: bs =>
    if b = Mark.close then .ok ([], bs)
    else if b = Mark.integer then do
      let (n, rest) ← integer bs
      if 0 ≤ n.toInt ∧ n.toInt < 256 then
        let (os, rest) ← octets fuel rest
        .ok (UInt8.ofNat n.toInt.toNat :: os, rest)
      else .error (.badKey (.range (.integer n) .octet))
    else if b = Mark.list then .error (.badKey (.kind .sequence .octet))
    else if b = Mark.dict then .error (.badKey (.kind .map .octet))
    else if Decimal.isDigit b then do
      let _ ← byteString (b :: bs)
      .error (.badKey (.kind .byteArray .octet))
    else .error (.invalidCharacter b)

/-- A key: a byte string, or a list of octets. -/
def key : Bytes → Except DecodeError (Bytes × Bytes)
  | [] => .error .endOfStream
  | b :: bs =>
    if b = Mark.integer then do
      let (n, _) ← integer bs
      .error (.badKey (.kind (.integer n) .byteArray))
    else if b = Mark.list then octets (bs.length + 1) bs
    else if b = Mark.dict then .error (.badKey (.kind .map .byteArray))
    else if b = Mark.close then .error .endOfStream
    else if Decimal.isDigit b then byteString (b :: bs)
    else .error (.invalidCharacter b)

mutual

/-- A value; `fuel` bounds the number of steps. -/
def decodeValue : (fuel : Nat) → Bytes → Except DecodeError (Value × Bytes)
  | 0, _ => .error .endOfStream
  | _ + 1, [] => .error .endOfStream
  | fuel + 1, b :: bs =>
    if b = Mark.integer then do
      let (n, rest) ← integer bs
      .ok (.int n, rest)
    else if b = Mark.list then do
      let (items, rest) ← decodeItems fuel bs
      .ok (.list items, rest)
    else if b = Mark.dict then do
      let (entries, rest) ← decodeEntries fuel bs
      .ok (.dict entries, rest)
    else if b = Mark.close then .error .endOfStream
    else if Decimal.isDigit b then do
      let (s, rest) ← byteString (b :: bs)
      .ok (.bytes s, rest)
    else .error (.invalidCharacter b)

/-- What follows the opening of a list. -/
def decodeItems : (fuel : Nat) → Bytes → Except DecodeError (List Value × Bytes)
  | 0, _ => .error .endOfStream
  | _ + 1, [] => .error .endOfStream
  | fuel + 1, b :: bs =>
    if b = Mark.close then .ok ([], bs)
    else do
      let (v, rest) ← decodeValue fuel (b :: bs)
      let (vs, rest) ← decodeItems fuel rest
      .ok (v :: vs, rest)

/-- What follows the opening of a dictionary. -/
def decodeEntries : (fuel : Nat) → Bytes → Except DecodeError (List Entry × Bytes)
  | 0, _ => .error .endOfStream
  | _ + 1, [] => .error .endOfStream
  | fuel + 1, b :: bs =>
    if b = Mark.close then .ok ([], bs)
    else do
      let (k, rest) ← key (b :: bs)
      let (v, rest) ← decodeValue fuel rest
      let (es, rest) ← decodeEntries fuel rest
      .ok ((k, v) :: es, rest)

end

/-- The value at the front of some octets, and the octets after it. -/
def decode (bs : Bytes) : Except DecodeError (Value × Bytes) :=
  decodeValue (2 * bs.length + 2) bs

end Kademlia.Bencode
