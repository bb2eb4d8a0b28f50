import Kademlia.Bytes
/-!
# Bencode values

Integers, byte strings, lists and dictionaries, as written: the entries of a dictionary stand in
the order of its text. A value is canonical when the keys of every dictionary inside it ascend, and
`Value.normal` gives the canonical value with the same contents, the last of equal keys winning.
-/

namespace Kademlia.Bencode

/-- A bencode value as written. -/
inductive Value where
  | int (n : Int64)
  | bytes (bs : Bytes)
  | list (items : List Value)
  | dict (entries : List (Bytes × Value))

/-- The byte string a value is. -/
def Value.asBytes? : Value → Option Bytes
  | .bytes bs => some bs
  | _ => none

/-- The integer a value is. -/
def Value.asInt? : Value → Option Int64
  | .int n => some n
  | _ => none

/-- One key of a dictionary with its value. -/
abbrev Entry := Bytes × Value

/-- The keys of `entries` ascend. -/
def Ascending (entries : List Entry) : Prop :=
  entries.Pairwise fun a b => compare a.1 b.1 = .lt

/-- Every dictionary inside has ascending keys. -/
inductive Value.Canonical : Value → Prop where
  | int (n : Int64) : Canonical (.int n)
  | bytes (bs : Bytes) : Canonical (.bytes bs)
  | list {items : List Value} (inner : ∀ v ∈ items, Canonical v) : Canonical (.list items)
  | dict {entries : List Entry} (ascending : Ascending entries)
      (inner : ∀ e ∈ entries, Canonical e.2) : Canonical (.dict entries)

/-- Put an entry at its place, instead of one with the same key. -/
def insertEntry (k : Bytes) (v : Value) : List Entry → List Entry
  | [] => [(k, v)]
  | e :: es =>
    match compare k e.1 with
    | .lt => (k, v) :: e :: es
    | .eq => (k, v) :: es
    | .gt => e :: insertEntry k v es

/-- Put an entry at its place, unless there is one with the same key. -/
def insertFresh (k : Bytes) (v : Value) : List Entry → List Entry
  | [] => [(k, v)]
  | e :: es =>
    match compare k e.1 with
    | .lt => (k, v) :: e :: es
    | .eq => e :: es
    | .gt => e :: insertFresh k v es

theorem mem_insertEntry {k : Bytes} {v : Value} {es : List Entry} {x : Entry}
    (h : x ∈ insertEntry k v es) : x = (k, v) ∨ x ∈ es := by
  induction es with
  | nil => simpa [insertEntry] using h
  | cons e es ih =>
    simp only [insertEntry] at h
    split at h <;> simp only [List.mem_cons] at h ⊢
    · exact h
    · rcases h with h | h <;> simp [h]
    · rcases h with h | h
      · simp [h]
      · rcases ih h with h | h <;> simp [h]

theorem mem_insertFresh {k : Bytes} {v : Value} {es : List Entry} {x : Entry}
    (h : x ∈ insertFresh k v es) : x = (k, v) ∨ x ∈ es := by
  induction es with
  | nil => simpa [insertFresh] using h
  | cons e es ih =>
    simp only [insertFresh] at h
    split at h <;> simp only [List.mem_cons] at h ⊢
    · exact h
    · rcases h with h | h <;> simp [h]
    · rcases h with h | h
      · simp [h]
      · rcases ih h with h | h <;> simp [h]

theorem ascending_insertEntry {k : Bytes} {v : Value} {es : List Entry} (h : Ascending es) :
    Ascending (insertEntry k v es) := by
  induction es with
  | nil => simp [insertEntry, Ascending]
  | cons e es ih =>
    simp only [Ascending, List.pairwise_cons] at h
    obtain ⟨first, rest⟩ := h
    simp only [insertEntry]
    split
    · next lt =>
      simp only [Ascending, List.pairwise_cons, List.mem_cons]
      refine ⟨?_, first, rest⟩
      rintro x (rfl | hx)
      · exact lt
      · exact Std.TransCmp.lt_trans lt (first x hx)
    · next eq =>
      have : k = e.1 := Std.LawfulEqCmp.eq_of_compare eq
      subst this
      exact List.pairwise_cons.2 ⟨first, rest⟩
    · next gt =>
      refine List.pairwise_cons.2 ⟨fun x hx => ?_, ih rest⟩
      rcases mem_insertEntry hx with rfl | hx
      · exact Std.OrientedCmp.lt_of_gt gt
      · exact first x hx

theorem ascending_insertFresh {k : Bytes} {v : Value} {es : List Entry} (h : Ascending es) :
    Ascending (insertFresh k v es) := by
  induction es with
  | nil => simp [insertFresh, Ascending]
  | cons e es ih =>
    simp only [Ascending, List.pairwise_cons] at h
    obtain ⟨first, rest⟩ := h
    simp only [insertFresh]
    split
    · next lt =>
      simp only [Ascending, List.pairwise_cons, List.mem_cons]
      refine ⟨?_, first, rest⟩
      rintro x (rfl | hx)
      · exact lt
      · exact Std.TransCmp.lt_trans lt (first x hx)
    · exact List.pairwise_cons.2 ⟨first, rest⟩
    · next gt =>
      refine List.pairwise_cons.2 ⟨fun x hx => ?_, ih rest⟩
      rcases mem_insertFresh hx with rfl | hx
      · exact Std.OrientedCmp.lt_of_gt gt
      · exact first x hx

mutual

/-- The canonical value with the same contents. -/
def Value.normal : Value → Value
  | .int n => .int n
  | .bytes bs => .bytes bs
  | .list items => .list (normalItems items)
  | .dict entries => .dict (normalEntries entries)

/-- The canonical values of a list. -/
def normalItems : List Value → List Value
  | [] => []
  | v :: vs => v.normal :: normalItems vs

/-- The canonical entries of a dictionary, ascending by key. -/
def normalEntries : List Entry → List Entry
  | [] => []
  | (k, v) :: es => insertFresh k v.normal (normalEntries es)

end

mutual

theorem Value.canonical_normal : (v : Value) → v.normal.Canonical
  | .int n => by simpa [Value.normal] using .int n
  | .bytes bs => by simpa [Value.normal] using .bytes bs
  | .list items => by
    simp only [Value.normal]
    exact .list (canonical_normalItems items)
  | .dict entries => by
    simp only [Value.normal]
    exact .dict (canonical_normalEntries entries).1 (canonical_normalEntries entries).2

theorem canonical_normalItems : (vs : List Value) → ∀ v ∈ normalItems vs, v.Canonical
  | [], v, h => by simp [normalItems] at h
  | w :: ws, v, h => by
    simp only [normalItems, List.mem_cons] at h
    rcases h with rfl | h
    · exact w.canonical_normal
    · exact canonical_normalItems ws v h

theorem canonical_normalEntries : (es : List Entry) →
    Ascending (normalEntries es) ∧ ∀ e ∈ normalEntries es, e.2.Canonical
  | [] => by simp [normalEntries, Ascending]
  | (k, v) :: es => by
    obtain ⟨ascending, inner⟩ := canonical_normalEntries es
    simp only [normalEntries]
    refine ⟨ascending_insertFresh ascending, fun e he => ?_⟩
    rcases mem_insertFresh he with rfl | he
    · exact v.canonical_normal
    · exact inner e he

end

end Kademlia.Bencode
