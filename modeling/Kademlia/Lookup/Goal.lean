import Kademlia.Lookup.Sweep
/-!
# Goals

What a lookup can be started for. The goal fixes its verb and when it ends.
-/

namespace Kademlia.Lookup

/-- What to look up. -/
inductive Goal where
  /-- The contacts closest to a target. -/
  | findNode (target : Id)
  /-- The nodes that hold values of a key. -/
  | findValue (key : Id)
  /-- The values of a key. -/
  | getValue (key : Id) (termination : Termination)
  /-- The storing of a value of a key. -/
  | storeValue (key : Id) (value : Bytes)
  deriving DecidableEq, Repr

namespace Goal

/-- The identifier a goal is about. -/
def target : Goal → Id
  | findNode target => target
  | findValue key | getValue key _ | storeValue key _ => key

/-- When a lookup for a goal ends; a value is stored at `redundancy` nodes. -/
def termination (redundancy : Nat) : Goal → Termination
  | findNode _ | findValue _ => .exhaustive
  | getValue _ termination => termination
  | storeValue .. => .redundancy redundancy redundancy

/-- The verb of a lookup for a goal, when the values in `known` are there already. -/
def verb (known : List Bytes) : Goal → Verb
  | findNode _ => .findNode
  | findValue _ => .findValue
  | getValue .. => .fetch known
  | storeValue _ value => .storeValue value []

end Goal

end Kademlia.Lookup
