import Kademlia.Contact
/-!
# Candidates

The contacts found by a lookup, each identifier once, at the address it was first found at. Contacts
are never taken out, so a contact stays where it is in the order of finding, and an index tells where
that is. For the same reason the order by distance has to be computed again only when there are more
contacts than the last time.
-/

namespace Kademlia.Lookup

/-- The index tells where each of the identifiers is, and nothing else. -/
def Indexes (index : List (Id × Nat)) (ids : List Id) : Prop :=
  ∀ id i, index.lookup id = some i ↔ ids[i]? = some id

theorem Indexes.snoc {index : List (Id × Nat)} {ids : List Id} (h : Indexes index ids) {id : Id}
    (new : index.lookup id = none) : Indexes ((id, ids.length) :: index) (ids ++ [id]) := by
  intro id' i
  have absent : ids[i]? ≠ some id := by
    intro there
    rw [(h id i).2 there] at new
    cases new
  rw [List.lookup_cons]
  by_cases same : id' = id
  · rw [same, beq_self_eq_true]
    by_cases last : i = ids.length
    · simp [last]
    · have other : (ids ++ [id])[i]? = ids[i]? := by grind
      simp [other, absent, Ne.symm last]
  · rw [beq_false_of_ne same]
    show index.lookup id' = some i ↔ _
    rw [h id' i]
    grind

/-- Found contacts, their index, and the order of those that were there at the last sort. -/
structure Candidates where
  target : Id
  /-- The contacts in the order in which they were found. -/
  found : List Contact
  /-- Where in `found` the contact of an identifier is. -/
  index : List (Id × Nat)
  /-- Positions in `found`, the contact closest to the target first. -/
  order : List Nat
  /-- How many contacts there were when `order` was computed. -/
  ordered : Nat
  /-- How many times the order was computed. -/
  resorts : Nat
  indexed : Indexes index (found.map (·.id))
  deriving Repr

namespace Candidates

/-- No contact. -/
def empty (target : Id) : Candidates :=
  ⟨target, [], [], [], 0, 0, by simp [Indexes]⟩

/-- Where the contact of an identifier is. -/
def position? (c : Candidates) (id : Id) : Option Nat :=
  c.index.lookup id

/-- The contact of an identifier. -/
def get? (c : Candidates) (id : Id) : Option Contact :=
  (c.position? id).bind fun i => c.found[i]?

/-- Add a contact unless its identifier is there, and whether it was added. -/
def insert (c : Candidates) (n : Contact) : Bool × Candidates :=
  match new : c.position? n.id with
  | some _ => (false, c)
  | none =>
    (true, { c with
      found := c.found ++ [n]
      index := (n.id, c.found.length) :: c.index
      indexed := by simpa using c.indexed.snoc new })

/-- Change the contact of an identifier, which stays the one it is. -/
def modify (c : Candidates) (id : Id) (f : Contact → Contact) : Candidates :=
  match c.position? id with
  | some i =>
    { c with
      found := c.found.modify i fun n => { f n with id := n.id }
      indexed := by
        have same : (c.found.modify i fun n => { f n with id := n.id }).map (·.id) =
            c.found.map (·.id) := by
          apply List.ext_getElem? 
          intro j
          simp only [List.getElem?_map, List.getElem?_modify]
          split <;> cases c.found[j]? <;> rfl
        exact same ▸ c.indexed }
  | none => c

/-- How many contacts there are. -/
def size (c : Candidates) : Nat :=
  c.found.length

/-- Is `a` no farther from the target than `b`? -/
def nearer (target : Id) (a b : Contact × Nat) : Bool :=
  Id.nearer target a.1.id b.1.id

/-- Compute the order, unless there are as many contacts as the last time. -/
def sort (c : Candidates) : Candidates :=
  if c.ordered = c.found.length then c
  else
    { c with
      order := (c.found.zipIdx.mergeSort (nearer c.target)).map (·.2)
      ordered := c.found.length
      resorts := c.resorts + 1 }

/-- The `count` closest contacts, or all of them, the closest first. -/
def closest (c : Candidates) (count : Option Nat) : List Contact × Candidates :=
  let c := c.sort
  let order := match count with
    | some n => c.order.take n
    | none => c.order
  (order.filterMap fun i => c.found[i]?, c)

end Candidates

end Kademlia.Lookup
