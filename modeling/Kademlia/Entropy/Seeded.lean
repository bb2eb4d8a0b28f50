import Kademlia.Bytes
import Kademlia.Digest.Sha1
import Kademlia.Text.Utf8
/-!
# Entropy

Random numbers come from a stream that is part of the state, so a run is a function of its inputs
and every law holds for all streams. A seed determines one, for runs that are to be repeated.
-/

namespace Kademlia

/-- A stream of random numbers, and how many of them are used up. -/
structure Entropy where
  draw : Nat → Nat
  used : Nat

namespace Entropy

/-- The next number. -/
def next (e : Entropy) : Nat × Entropy :=
  (e.draw e.used, { e with used := e.used + 1 })

/-- The next `width` octets. -/
def nextBytes (e : Entropy) (width : Nat) : Bytes × Entropy :=
  let (n, e) := e.next
  (Bytes.ofNat width n, e)

/-- `n` members of a list, picked one after another without putting any back. -/
def sample {α : Type} : (n : Nat) → List α → Entropy → List α × Entropy
  | 0, _, e => ([], e)
  | n + 1, xs, e =>
    let (d, e) := e.next
    match xs[d % xs.length]? with
    | none => ([], e)
    | some x =>
      let (ys, e) := sample n (xs.eraseIdx (d % xs.length)) e
      (x :: ys, e)

/-- The hashes of a seed with a counter. -/
def ofSeed (seed : String) : Entropy where
  draw n := Bytes.toNat (Sha1.digest (Utf8.encode s!"{seed}/{n}"))
  used := 0

end Entropy

end Kademlia
