import Kademlia.Bencode.Value
/-!
# Dictionaries

A dictionary holds canonical entries, so equal contents are equal dictionaries whatever the order
in which they were put in.
-/

namespace Kademlia.Bencode

/-- Canonical entries, ascending by key. -/
structure Dict where
  entries : List Entry
  canonical : (Value.dict entries).Canonical

namespace Dict

theorem ascending (d : Dict) : Ascending d.entries := by
  cases d.canonical with
  | dict ascending _ => exact ascending

theorem canonical_of_mem (d : Dict) {e : Entry} (h : e ∈ d.entries) : e.2.Canonical := by
  cases d.canonical with
  | dict _ inner => exact inner e h

/-- No entry. -/
def empty : Dict :=
  ⟨[], .dict .nil (by simp)⟩

/-- The dictionary of some entries, the last of equal keys winning. -/
def ofEntries (entries : List Entry) : Dict :=
  ⟨normalEntries entries, .dict (canonical_normalEntries entries).1 (canonical_normalEntries entries).2⟩

/-- The dictionary as a value. -/
def toValue (d : Dict) : Value :=
  .dict d.entries

/-- The value of a key. -/
def get? (d : Dict) (k : Bytes) : Option Value :=
  (d.entries.find? fun e => e.1 == k).map (·.2)

/-- Put a value under a key, instead of the one that is there. -/
def insert (d : Dict) (k : Bytes) (v : Value) : Dict where
  entries := insertEntry k v.normal d.entries
  canonical := by
    refine .dict (ascending_insertEntry d.ascending) fun e he => ?_
    rcases mem_insertEntry he with rfl | he
    · exact v.canonical_normal
    · exact d.canonical_of_mem he

/-- Take a key out. -/
def erase (d : Dict) (k : Bytes) : Dict where
  entries := d.entries.filter fun e => e.1 != k
  canonical := .dict (d.ascending.filter _) fun _ he => d.canonical_of_mem ((List.mem_filter.1 he).1)

/-- How many keys there are. -/
def size (d : Dict) : Nat :=
  d.entries.length

/-- Is there no key? -/
def isEmpty (d : Dict) : Bool :=
  d.entries.isEmpty

/-- The byte string under a key. -/
def getBytes? (d : Dict) (k : Bytes) : Option Bytes :=
  (d.get? k).bind Value.asBytes?

/-- The integer under a key. -/
def getInt? (d : Dict) (k : Bytes) : Option Int64 :=
  (d.get? k).bind Value.asInt?

end Dict

end Kademlia.Bencode
