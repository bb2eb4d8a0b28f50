import Kademlia.Storage.Store
import Mathlib.Data.List.Perm.Basic
import Mathlib.Data.List.Perm.Subperm
import Mathlib.Order.Lattice

/-!
# How much a store holds

No key has more values than there may be, and no value is longer than the longest one that was stored.
-/

namespace Kademlia.Storage

variable {n width : Nat}

namespace Recency

variable {κ ν : Type} [DecidableEq κ] {r : Recency κ ν}

lemma mem_of_mem_put {k : κ} {v : ν} {x : κ × ν} (h : x ∈ (r.put k v).entries) :
    x = (k, v) ∨ x ∈ r.entries :=
  (List.mem_cons.1 (List.mem_of_mem_take h)).imp_right List.mem_of_mem_filter

lemma length_put_le (k : κ) (v : ν) : (r.put k v).entries.length ≤ r.capacity := by
  show List.length (List.take r.capacity _) ≤ r.capacity
  rw [List.length_take]
  exact min_le_left _ _

lemma mem_of_peek? {k : κ} {v : ν} (h : r.peek? k = some v) : (k, v) ∈ r.entries := by
  obtain ⟨x, hx, rfl⟩ := Option.map_eq_some_iff.1 h
  have hk : x.1 = k := by simpa using List.find?_some hx
  rw [← hk]
  exact List.mem_of_find?_eq_some hx

/-- Using a key brings in no entry. -/
lemma mem_of_mem_touch {k : κ} {x : κ × ν} (h : x ∈ (r.touch k).entries) : x ∈ r.entries := by
  unfold touch at h
  split at h
  · next v hv =>
    rcases mem_of_mem_put h with rfl | h
    · exact mem_of_peek? hv
    · exact h
  · exact h

/-- What is put into a list that may have an entry is there. -/
lemma peek?_put (h : 0 < r.capacity) (k : κ) (v : ν) : (r.put k v).peek? k = some v := by
  obtain ⟨n, hn⟩ := Nat.exists_eq_succ_of_ne_zero h.ne'
  simp [put, peek?, hn]

lemma capacity_touch (k : κ) : (r.touch k).capacity = r.capacity := by
  unfold touch
  split <;> rfl

end Recency

/-- At most `n` values, none of them longer than `width`. -/
structure Recency.Bounded (n width : Nat) (r : Recency Id Bytes) : Prop where
  capacity : r.capacity = n
  size : r.entries.length ≤ n
  width : ∀ x ∈ r.entries, x.2.length ≤ width

/-- At most `n` values for each key, none of them longer than `width`. -/
structure Store.Bounded (n width : Nat) (s : Store) : Prop where
  maxValues : s.maxValues = n
  values : ∀ x ∈ s.keys.entries, x.2.Bounded n width

namespace Store.Bounded

variable {s : Store}

lemma empty (maxKeys maxValues : Nat) : (Store.empty maxKeys maxValues).Bounded (max maxValues 1) width :=
  ⟨rfl, fun _ hx => absurd hx List.not_mem_nil⟩

lemma peek (h : s.Bounded n width) (key : Id) :
    (s.peek key).length ≤ n ∧ ∀ v ∈ s.peek key, v.length ≤ width := by
  unfold Store.peek
  split
  · next values hvalues =>
    have hbounded := h.values _ (Recency.mem_of_peek? hvalues)
    refine ⟨(List.length_map _).trans_le hbounded.size, fun v hv => ?_⟩
    obtain ⟨x, hx, rfl⟩ := List.mem_map.1 hv
    exact hbounded.width x hx
  · exact ⟨Nat.zero_le n, fun v hv => absurd hv List.not_mem_nil⟩

lemma insert (h : s.Bounded n width) (key : Id) {value : Bytes} (hvalue : value.length ≤ width) :
    (s.insert key value).Bounded n width := by
  have hvalues : ((s.keys.peek? key).getD (.empty s.maxValues)).Bounded n width := by
    cases hpeek : s.keys.peek? key with
    | some values => exact h.values _ (Recency.mem_of_peek? hpeek)
    | none => exact ⟨h.maxValues, Nat.zero_le n, fun _ hx => absurd hx List.not_mem_nil⟩
  refine ⟨h.maxValues, fun x hx => ?_⟩
  rcases Recency.mem_of_mem_put hx with rfl | hx
  · refine ⟨hvalues.capacity, ?_, fun y hy => ?_⟩
    · exact (Recency.length_put_le _ _).trans_eq hvalues.capacity
    · rcases Recency.mem_of_mem_put hy with rfl | hy
      · exact hvalue
      · exact hvalues.width y hy
  · exact h.values x hx

end Store.Bounded

/-- What is picked at random is there, and nothing is picked twice. -/
lemma subperm_sample {α : Type} (k : Nat) (xs : List α) (e : Entropy) :
    (Entropy.sample k xs e).1.Subperm xs := by
  induction k generalizing xs e with
  | zero => exact List.nil_subperm
  | succ k ih =>
    unfold Entropy.sample
    dsimp only
    split
    · exact List.nil_subperm
    · next x hx =>
      obtain ⟨hi, rfl⟩ := List.getElem?_eq_some_iff.1 hx
      have hrest := ih (xs.eraseIdx (e.next.1 % xs.length)) e.next.2
      exact ((List.subperm_cons _).2 hrest).trans (List.getElem_cons_eraseIdx_perm hi).subperm

/-- All that reading a key leaves is that the key was used. -/
lemma Store.store_get (s : Store) (e : Entropy) (key : Id) (num : Nat) :
    (s.get e key num).2.1 = { s with keys := s.keys.touch key } := by
  unfold get
  dsimp only
  split <;> rfl

namespace Store.Bounded

variable {s : Store}

/-- What is read of a key, and what is left. -/
lemma get (h : s.Bounded n width) (e : Entropy) (key : Id) (num : Nat) :
    ((s.get e key num).1.length ≤ n ∧ ∀ v ∈ (s.get e key num).1, v.length ≤ width) ∧
      (s.get e key num).2.1.Bounded n width := by
  obtain ⟨hlength, hwidth⟩ := h.peek key
  refine ⟨?_, ?_⟩
  · unfold Store.get
    dsimp only
    split
    · exact ⟨hlength, hwidth⟩
    · have hpicked := subperm_sample num (s.peek key) e
      exact ⟨hpicked.length_le.trans hlength, fun v hv => hwidth v (hpicked.subset hv)⟩
  · rw [store_get]
    exact ⟨h.maxValues, fun x hx => h.values x (Recency.mem_of_mem_touch hx)⟩

end Store.Bounded

/-! ### Room -/

/-- There may be a key, and each key may have a value. -/
structure Store.Roomy (s : Store) : Prop where
  keys : 0 < s.keys.capacity
  maxValues : 0 < s.maxValues
  values : ∀ x ∈ s.keys.entries, 0 < x.2.capacity

namespace Store.Roomy

variable {s : Store}

lemma empty (maxKeys maxValues : Nat) : (Store.empty maxKeys maxValues).Roomy where
  keys := Nat.le_max_right _ _
  maxValues := Nat.le_max_right _ _
  values _ hx := absurd hx List.not_mem_nil

/-- The list that a value is put into may have a value. -/
lemma capacity_getD (h : s.Roomy) (key : Id) :
    0 < ((s.keys.peek? key).getD (.empty s.maxValues)).capacity := by
  cases hpeek : s.keys.peek? key with
  | some values => exact h.values _ (Recency.mem_of_peek? hpeek)
  | none => exact h.maxValues

lemma insert (h : s.Roomy) (key : Id) (value : Bytes) : (s.insert key value).Roomy where
  keys := h.keys
  maxValues := h.maxValues
  values x hx := by
    rcases Recency.mem_of_mem_put hx with rfl | hx
    · exact h.capacity_getD key
    · exact h.values x hx

lemma get (h : s.Roomy) (e : Entropy) (key : Id) (num : Nat) : (s.get e key num).2.1.Roomy := by
  rw [store_get]
  exact ⟨h.keys.trans_eq (Recency.capacity_touch key).symm, h.maxValues,
    fun x hx => h.values x (Recency.mem_of_mem_touch hx)⟩

/-- A value that was stored is held under its key. -/
lemma mem_peek_insert (h : s.Roomy) (key : Id) (value : Bytes) :
    value ∈ (s.insert key value).peek key := by
  have hvalue := Recency.peek?_put (h.capacity_getD key) (Id.ofData value) value
  rw [Store.peek, Store.insert, Recency.peek?_put h.keys]
  exact List.mem_map_of_mem (Recency.mem_of_peek? hvalue)

end Store.Roomy

end Kademlia.Storage
