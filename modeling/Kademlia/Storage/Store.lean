import Kademlia.Entropy.Seeded
import Kademlia.Id
import Kademlia.Storage.Recency
/-!
# The value store

Keys with their values, each value once, both bounded and ordered by their last use. Reading the
values of a key uses the key and none of its values; counting uses nothing; storing a value again
uses both.
-/

namespace Kademlia.Storage

/-- Values by their hash, by key. -/
structure Store where
  keys : Recency Id (Recency Id Bytes)
  maxValues : Nat

namespace Store

/-- No value; at least one key and one value per key are allowed. -/
def empty (maxKeys maxValues : Nat) : Store :=
  ⟨.empty (max maxKeys 1), max maxValues 1⟩

/-- The values of a key, the latest first, without using it. -/
def peek (s : Store) (key : Id) : List Bytes :=
  match s.keys.peek? key with
  | some values => values.values
  | none => []

/-- Store a value under a key. -/
def insert (s : Store) (key : Id) (value : Bytes) : Store :=
  let values := (s.keys.peek? key).getD (.empty s.maxValues)
  { s with keys := s.keys.put key (values.put (Id.ofData value) value) }

/-- How many values a key has. -/
def count (s : Store) (key : Id) : Nat :=
  (s.peek key).length

/-- All values of a key if `num` is zero or at least their number, else `num` of them at random. -/
def get (s : Store) (e : Entropy) (key : Id) (num : Nat) : List Bytes × Store × Entropy :=
  let values := s.peek key
  let s := { s with keys := s.keys.touch key }
  if num = 0 ∨ values.length ≤ num then (values, s, e)
  else
    let (picked, e) := Entropy.sample num values e
    (picked, s, e)

end Store

end Kademlia.Storage
