import Kademlia.Proofs.Bencode.Contents
import Kademlia.Proofs.Bencode.RoundTrip

/-!
# How long written forms get

The written form of a list or of a dictionary is as long as what is in it, and two octets. So putting
a value under a key makes it longer by what the value takes, and it gets shorter when entries of equal
keys are left out.
-/

namespace Kademlia

namespace Decimal

lemma length_ofNat_le {n k : Nat} (hk : 0 < k) (h : n < 10 ^ k) : (ofNat n).length ≤ k := by
  rw [ofNat, List.length_map]
  exact (Nat.length_toDigits_le_iff (by decide) hk).2 h

/-- An integer of 64 bits takes nineteen digits and a sign. -/
lemma length_ofInt_int64 (n : Int64) : (ofInt n.toInt).length ≤ 20 := by
  have hlow := n.le_toInt
  have hhigh := n.toInt_lt
  generalize n.toInt = i at hlow hhigh
  cases i with
  | ofNat m =>
    apply length_ofNat_le (by decide)
    rw [Int.ofNat_eq_natCast] at hhigh
    omega
  | negSucc m =>
    have hm : m + 1 < 10 ^ 19 := by
      rw [Int.negSucc_eq] at hlow
      omega
    have hlength := length_ofNat_le (by decide) hm
    show (minus :: ofNat (m + 1)).length ≤ 20
    rw [List.length_cons]
    omega

end Decimal

namespace Bencode

/-! ### Parts of a value -/

lemma length_encodeBytes_eq (bs : Bytes) :
    (encodeBytes bs).length = (Decimal.ofNat bs.length).length + bs.length + 1 := by
  simp only [encodeBytes, List.length_append, List.length_cons]
  omega

/-- The length of a byte string takes no more digits than there are octets and one. -/
lemma length_encodeBytes_le (bs : Bytes) : (encodeBytes bs).length ≤ 2 * bs.length + 2 := by
  have hdigits : (Decimal.ofNat bs.length).length ≤ bs.length + 1 := by
    apply Decimal.length_ofNat_le (Nat.succ_pos _)
    exact (Nat.lt_succ_self _).trans (Nat.lt_pow_self (by decide))
  rw [length_encodeBytes_eq]
  omega

lemma Value.length_encode_list (items : List Value) :
    (Value.list items).encode.length = (items.map fun v => v.encode.length).sum + 2 := by
  simp [Value.encode_list, List.length_flatMap]

lemma Value.length_encode_dict (entries : List Entry) :
    (Value.dict entries).encode.length =
      (entries.map fun e => (encodeEntry e).length).sum + 2 := by
  simp [Value.encode_dict, List.length_flatMap]

lemma length_encodeEntry (k : Bytes) (v : Value) :
    (encodeEntry (k, v)).length = (encodeBytes k).length + v.encode.length := by
  rw [encodeEntry, List.length_append]

/-! ### Putting an entry in -/

/-- Where an entry is put does not depend on its value. -/
lemma exists_insertEntry_eq (k : Bytes) (es : List Entry) :
    ∃ before after, ∀ v, insertEntry k v es = before ++ (k, v) :: after := by
  induction es with
  | nil => exact ⟨[], [], fun _ => rfl⟩
  | cons e es ih =>
    simp only [insertEntry]
    cases compare k e.1 with
    | lt => exact ⟨[], e :: es, fun _ => rfl⟩
    | eq => exact ⟨[], es, fun _ => rfl⟩
    | gt =>
      obtain ⟨before, after, heq⟩ := ih
      exact ⟨e :: before, after, fun v => by rw [heq, List.cons_append]⟩

/-- How long a dictionary gets with a value under a key. -/
lemma Dict.exists_length_insert (d : Dict) (k : Bytes) :
    ∃ n, ∀ v : Value, v.Canonical →
      (d.insert k v).toValue.encode.length = n + v.encode.length := by
  obtain ⟨before, after, heq⟩ := exists_insertEntry_eq k d.entries
  refine ⟨(before.map fun e => (encodeEntry e).length).sum + (encodeBytes k).length +
    (after.map fun e => (encodeEntry e).length).sum + 2, fun v hv => ?_⟩
  have hentries : (d.insert k v).entries = before ++ (k, v) :: after := by
    show insertEntry k v.normal d.entries = _
    rw [Value.normal_of_canonical hv, heq]
  rw [Dict.toValue, hentries, Value.length_encode_dict]
  simp only [List.map_append, List.map_cons, List.sum_append, List.sum_cons, length_encodeEntry]
  omega

/-! ### Leaving entries out -/

lemma length_entries_insertFresh (k : Bytes) (v : Value) (es : List Entry) :
    ((insertFresh k v es).map fun e => (encodeEntry e).length).sum ≤
      (encodeEntry (k, v)).length + (es.map fun e => (encodeEntry e).length).sum := by
  induction es with
  | nil => simp [insertFresh]
  | cons e es ih =>
    simp only [insertFresh]
    cases compare k e.1 with
    | lt => simp
    | eq => simp
    | gt =>
      simp only [List.map_cons, List.sum_cons]
      omega

mutual

/-- Leaving out entries of equal keys takes octets away. -/
theorem Value.length_encode_normal : (v : Value) → v.normal.encode.length ≤ v.encode.length
  | .int n => by simp [Value.normal]
  | .bytes bs => by simp [Value.normal]
  | .list items => by
    have hitems := length_items_normal items
    rw [Value.normal, Value.length_encode_list, Value.length_encode_list]
    omega
  | .dict entries => by
    have hentries := length_entries_normal entries
    rw [Value.normal, Value.length_encode_dict, Value.length_encode_dict]
    omega

theorem length_items_normal : (vs : List Value) →
    ((normalItems vs).map fun v => v.encode.length).sum ≤ (vs.map fun v => v.encode.length).sum
  | [] => by simp [normalItems]
  | v :: vs => by
    have hv := v.length_encode_normal
    have hvs := length_items_normal vs
    simp only [normalItems, List.map_cons, List.sum_cons]
    omega

theorem length_entries_normal : (es : List Entry) →
    ((normalEntries es).map fun e => (encodeEntry e).length).sum ≤
      (es.map fun e => (encodeEntry e).length).sum
  | [] => by simp [normalEntries]
  | (k, v) :: es => by
    have hv := v.length_encode_normal
    have hes := length_entries_normal es
    have hinsert := length_entries_insertFresh k v.normal (normalEntries es)
    rw [length_encodeEntry] at hinsert
    simp only [normalEntries, List.map_cons, List.sum_cons, length_encodeEntry]
    omega

end

/-- A dictionary takes no more octets than the entries that it was made of. -/
lemma Dict.length_ofEntries (es : List Entry) :
    (Dict.ofEntries es).toValue.encode.length ≤
      (es.map fun e => (encodeEntry e).length).sum + 2 := by
  rw [Dict.toValue, Value.length_encode_dict]
  exact Nat.add_le_add_right (length_entries_normal es) 2

end Bencode

end Kademlia
