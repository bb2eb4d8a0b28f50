import Kademlia.Routing.Bucket
/-!
# The routing table

One bucket for each distance to the own identifier, from 0 to 160. The own identifier is never
added, so the first bucket stays empty. `Table.closest` sorts all contacts by their distance to a
target.
-/

namespace Kademlia.Routing

/-- Buckets of at most `k` contacts around the own identifier. -/
structure Table where
  id : Id
  k : Nat
  buckets : Vector Bucket 161

/-- The number of contacts in a bucket when nothing else is asked for. -/
def defaultBucketSize : Nat := 8

namespace Table

/-- No contacts around an identifier. -/
def empty (id : Id) (k : Nat) : Table :=
  ⟨id, k, Vector.replicate 161 []⟩

/-- The number of the bucket an identifier belongs to. -/
def index (t : Table) (id : Id) : Fin 161 :=
  ⟨t.id.distance id, Nat.lt_succ_of_le (Id.distance_le _ _)⟩

/-- The bucket an identifier belongs to. -/
def bucketOf (t : Table) (id : Id) : Bucket :=
  t.buckets[t.index id]

/-- Put another bucket in the place of the one an identifier belongs to. -/
def setBucket (t : Table) (id : Id) (b : Bucket) : Table :=
  { t with buckets := t.buckets.set (t.index id) b }

/-- Add or refresh a contact, and whether it is in the table then. -/
def add (t : Table) (c : Contact) : Bool × Table :=
  if t.id = c.id then (false, t)
  else
    let (added, b) := (t.bucketOf c.id).add t.k c
    (added, t.setBucket c.id b)

/-- Take an identifier out. -/
def remove (t : Table) (id : Id) : Table :=
  t.setBucket id ((t.bucketOf id).remove id)

/-- Count a failure of a contact at its address. -/
def fail (t : Table) (c : Contact) : Table :=
  t.setBucket c.id ((t.bucketOf c.id).fail c)

/-- Is an identifier in the table? -/
def contains (t : Table) (id : Id) : Bool :=
  (t.bucketOf id).holds id

/-- All entries, the nearest bucket first. -/
def entries (t : Table) : List BucketEntry :=
  t.buckets.toList.flatten

/-- All contacts, the nearest bucket first. -/
def contacts (t : Table) : List Contact :=
  t.entries.map (·.contact)

/-- How many contacts there are. -/
def size (t : Table) : Nat :=
  t.entries.length

/-- Is there no contact? -/
def isEmpty (t : Table) : Bool :=
  t.buckets.toList.all List.isEmpty

/-- Up to `count` contacts, the closest to `target` first. -/
def closest (t : Table) (target : Id) (count : Nat) : List Contact :=
  (t.contacts.mergeSort fun a b => Id.nearer target a.id b.id).take count

end Table

end Kademlia.Routing
