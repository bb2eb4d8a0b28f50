/-!
# When a lookup ends

A lookup may end before it runs out of candidates: once enough results are there, or once enough
nodes answered. A bound of zero results is no bound.
-/

namespace Kademlia.Lookup

/-- When a lookup ends before it runs out of candidates. -/
inductive Termination where
  /-- Never. -/
  | exhaustive
  /-- Once so many results are there. -/
  | results (count : Nat)
  /-- Once so many results are there, or so many nodes answered. -/
  | redundancy (results responders : Nat)
  deriving DecidableEq, Repr

namespace Termination

/-- End after `count` results, and never if it is zero. -/
def ofCount : Nat → Termination
  | 0 => exhaustive
  | count => results count

/-- The number of results wanted, none if there is no bound. -/
def budget : Termination → Option Nat
  | exhaustive => none
  | results n | redundancy n _ => if n = 0 then none else some n

/-- Numbers that are compared with a budget are kept in words, whose values are those below this. A word
has 64 bits, or more where a budget needs more. -/
def wordSize (budget : Nat) : Nat :=
  max UInt64.size (budget + 1)

/-- Does such a sum, taken in a word, reach the budget? None does if there is no bound. -/
def reachedBy (t : Termination) (sum : Nat) : Bool :=
  match t.budget with
  | some budget => budget ≤ sum % wordSize budget
  | none => false

/-- Does the lookup end with so many results and so many answers? -/
def isMet (t : Termination) (results answered : Nat) : Bool :=
  match t.budget with
  | none => false
  | some budget =>
    budget ≤ results ||
      match t with
      | redundancy _ responders => responders ≤ answered
      | _ => false

/-- The text of a condition. -/
def text : Termination → String
  | exhaustive => "Exhaustive"
  | results n => s!"Results({n})"
  | redundancy n m => "Redundancy \x7b results: " ++ toString n ++ ", responders: " ++ toString m ++ " \x7d"

end Termination

end Kademlia.Lookup
