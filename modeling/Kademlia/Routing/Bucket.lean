import Kademlia.Contact
/-!
# Buckets

A bucket keeps contacts in the order in which they were last seen, the latest at the end, with the
number of failures since. A full bucket takes a new contact only in place of the first one with a
failure, so contacts that answer are never displaced.
-/

namespace Kademlia.Routing

/-- A contact of a bucket, and how many requests to it failed since it was last seen. -/
structure BucketEntry where
  contact : Contact
  failures : Nat
  deriving DecidableEq, Repr

/-- The failures after which a contact is dropped. -/
def maxFailures : Nat := 3

/-- Contacts in the order in which they were last seen. -/
abbrev Bucket := List BucketEntry

namespace Bucket

/-- Does the bucket hold this identifier? -/
def holds (b : Bucket) (id : Id) : Bool :=
  b.any fun e => e.contact.id == id

/-- Add or refresh a contact in a bucket of at most `k`, and whether it is in the bucket then. -/
def add (b : Bucket) (k : Nat) (c : Contact) : Bool × Bucket :=
  let entry : BucketEntry := ⟨c.bare, 0⟩
  if b.holds c.id then (true, b.eraseP (fun e => e.contact.id == c.id) ++ [entry])
  else if b.length < k then (true, b ++ [entry])
  else if b.any (fun e => 0 < e.failures) then (true, b.eraseP (fun e => 0 < e.failures) ++ [entry])
  else (false, b)

/-- Take an identifier out. -/
def remove (b : Bucket) (id : Id) : Bucket :=
  b.filter fun e => e.contact.id != id

/-- Count a failure of a contact at its address, which drops it at the last one allowed. -/
def fail (c : Contact) : Bucket → Bucket
  | [] => []
  | e :: es =>
    if e.contact.same c then
      if maxFailures ≤ e.failures + 1 then es else { e with failures := e.failures + 1 } :: es
    else e :: fail c es

end Bucket

end Kademlia.Routing
