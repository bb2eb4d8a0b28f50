/-!
# Recency lists

A map of bounded size whose entries stand in the order of their last use, the latest first. Putting
or reading a key uses it; peeking does not. A put into a full map drops the entry used longest ago.
-/

namespace Kademlia.Storage

/-- Entries in the order of their last use, and how many there may be. -/
structure Recency (κ ν : Type) where
  capacity : Nat
  entries : List (κ × ν)

namespace Recency

variable {κ ν : Type} [DecidableEq κ]

/-- No entry. -/
def empty (capacity : Nat) : Recency κ ν :=
  ⟨capacity, []⟩

/-- The value of a key. -/
def peek? (r : Recency κ ν) (k : κ) : Option ν :=
  (r.entries.find? fun e => e.1 = k).map (·.2)

/-- Put a value under a key, as the latest entry. -/
def put (r : Recency κ ν) (k : κ) (v : ν) : Recency κ ν :=
  { r with entries := ((k, v) :: r.entries.filter fun e => e.1 ≠ k).take r.capacity }

/-- Make the entry of a key the latest one, if there is one. -/
def touch (r : Recency κ ν) (k : κ) : Recency κ ν :=
  match r.peek? k with
  | some v => r.put k v
  | none => r

/-- How many entries there are. -/
def size (r : Recency κ ν) : Nat :=
  r.entries.length

/-- The values, the one used last first. -/
def values (r : Recency κ ν) : List ν :=
  r.entries.map (·.2)

end Recency

end Kademlia.Storage
