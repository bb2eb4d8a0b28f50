import Kademlia.Bytes
/-!
# SHA-1

The 160-bit hash of a byte string.
-/

namespace Kademlia.Sha1

/-- The five words of the running hash. -/
structure Chain where
  a : UInt32
  b : UInt32
  c : UInt32
  d : UInt32
  e : UInt32
  deriving DecidableEq, Repr

/-- The hash of no block. -/
def Chain.start : Chain :=
  ⟨0x67452301, 0xEFCDAB89, 0x98BADCFE, 0x10325476, 0xC3D2E1F0⟩

/-- Rotate a word to the left. -/
def rotate (w : UInt32) (n : UInt32) : UInt32 :=
  (w <<< n) ||| (w >>> (32 - n))

/-- The message, a one bit, zeros up to eight octets before a block's end, and the bit length. -/
def pad (bs : Bytes) : Bytes :=
  bs ++ 0x80 :: List.replicate ((119 - bs.length % 64) % 64) 0 ++ Bytes.ofNat 8 (bs.length * 8)

/-- Groups of four octets as big-endian words; an incomplete last group is left out. -/
def words : Bytes → List UInt32
  | a :: b :: c :: d :: rest =>
    (a.toUInt32 <<< 24 ||| b.toUInt32 <<< 16 ||| c.toUInt32 <<< 8 ||| d.toUInt32) :: words rest
  | _ => []

/-- Prepend `n` words to a schedule whose latest word comes first. -/
def expand : Nat → List UInt32 → List UInt32
  | 0, ws => ws
  | n + 1, ws =>
    let word (i : Nat) := ws.getD i 0
    expand n (rotate (word 2 ^^^ word 7 ^^^ word 13 ^^^ word 15) 1 :: ws)

/-- The selection function and the constant of round `t`. -/
def mix (t : Nat) (b c d : UInt32) : UInt32 :=
  if t < 20 then (b &&& c ||| ~~~b &&& d) + 0x5A827999
  else if t < 40 then (b ^^^ c ^^^ d) + 0x6ED9EBA1
  else if t < 60 then (b &&& c ||| b &&& d ||| c &&& d) + 0x8F1BBCDC
  else (b ^^^ c ^^^ d) + 0xCA62C1D6

/-- Round `t` with its schedule word. -/
def round (h : Chain) (w : UInt32) (t : Nat) : Chain :=
  ⟨rotate h.a 5 + mix t h.b h.c h.d + h.e + w, h.a, rotate h.b 30, h.c, h.d⟩

/-- Hash one block of sixteen words. -/
def block (h : Chain) (ws : List UInt32) : Chain :=
  let schedule := (expand 64 ws.reverse).reverse
  let r := schedule.zipIdx.foldl (fun r (w, t) => round r w t) h
  ⟨h.a + r.a, h.b + r.b, h.c + r.c, h.d + r.d, h.e + r.e⟩

/-- Hash `n` blocks of a padded message. -/
def blocks : Nat → Chain → List UInt32 → Chain
  | 0, h, _ => h
  | n + 1, h, ws => blocks n (block h (ws.take 16)) (ws.drop 16)

/-- The four octets of a word, most significant first. -/
def octets (w : UInt32) : Bytes :=
  [(w >>> 24).toUInt8, (w >>> 16).toUInt8, (w >>> 8).toUInt8, w.toUInt8]

/-- The twenty octets of a chain. -/
def Chain.bytes (h : Chain) : Bytes :=
  octets h.a ++ octets h.b ++ octets h.c ++ octets h.d ++ octets h.e

@[simp] theorem Chain.length_bytes (h : Chain) : h.bytes.length = 20 := rfl

/-- The chain after the whole message. -/
def chain (bs : Bytes) : Chain :=
  let ws := words (pad bs)
  blocks (ws.length / 16) .start ws

/-- The hash of a message. -/
def digest (bs : Bytes) : Bytes :=
  (chain bs).bytes

@[simp] theorem length_digest (bs : Bytes) : (digest bs).length = 20 := rfl

end Kademlia.Sha1
