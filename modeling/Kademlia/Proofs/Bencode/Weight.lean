import Kademlia.Bencode.Dict
import Kademlia.Proofs.Bencode.RoundTrip

/-!
# The weight of a value

A value takes at least one octet to write, a byte string also one for each of its own, and a list or
a dictionary those of what is in it. So what is read from some octets weighs no more than there are
octets, however it was written, and no part of it weighs more than the whole.
-/

namespace Kademlia.Bencode

mutual

/-- How much there is of a value. Keys do not count. -/
def Value.weight : Value → Nat
  | .int _ => 1
  | .bytes bs => bs.length + 1
  | .list items => itemsWeight items + 1
  | .dict entries => entriesWeight entries + 1

/-- How much there is in a list. -/
def itemsWeight : List Value → Nat
  | [] => 0
  | v :: vs => v.weight + itemsWeight vs

/-- How much there is in a dictionary. -/
def entriesWeight : List Entry → Nat
  | [] => 0
  | (_, v) :: es => v.weight + entriesWeight es

end

lemma Value.weight_pos (v : Value) : 0 < v.weight := by
  cases v <;> simp [weight]

lemma length_le_itemsWeight (vs : List Value) : vs.length ≤ itemsWeight vs := by
  induction vs with
  | nil => simp
  | cons v vs ih =>
    have hv := v.weight_pos
    simp only [List.length_cons, itemsWeight]
    omega

lemma weight_le_entriesWeight {e : Entry} {es : List Entry} (h : e ∈ es) :
    e.2.weight ≤ entriesWeight es := by
  induction es with
  | nil => simp at h
  | cons f es ih =>
    obtain ⟨k, v⟩ := f
    rw [entriesWeight]
    rcases List.mem_cons.1 h with rfl | h
    · exact Nat.le_add_right _ _
    · have hrest := ih h
      omega

/-! ### What is read -/

lemma length_takeThrough {stop : UInt8} {bs text rest : Bytes}
    (h : takeThrough stop bs = some (text, rest)) : rest.length < bs.length := by
  induction bs generalizing text with
  | nil => simp [takeThrough] at h
  | cons b bs ih =>
    unfold takeThrough at h
    split_ifs at h with hb
    · obtain ⟨-, rfl⟩ := Prod.mk.inj (Option.some.inj h)
      simp
    · obtain ⟨⟨text', rest'⟩, hrest, heq⟩ := Option.map_eq_some_iff.1 h
      obtain ⟨-, rfl⟩ := Prod.mk.inj heq
      have hlt := ih hrest
      simp only [List.length_cons]
      omega

lemma length_integer {bs rest : Bytes} {n : Int64} (h : integer bs = .ok (n, rest)) :
    rest.length < bs.length := by
  unfold integer at h
  split at h
  · cases h
  · next text rest' htext =>
    split at h
    · obtain ⟨-, rfl⟩ := Prod.mk.inj (Except.ok.inj h)
      exact length_takeThrough htext
    · cases h

lemma length_byteString {bs s rest : Bytes} (h : byteString bs = .ok (s, rest)) :
    s.length + rest.length < bs.length := by
  unfold byteString at h
  split at h
  · cases h
  · next text rest' htext =>
    have hlt := length_takeThrough htext
    split at h
    · next n hn =>
      split_ifs at h with hreaches
      obtain ⟨rfl, rfl⟩ := Prod.mk.inj (Except.ok.inj h)
      simp only [List.length_take, List.length_drop]
      omega
    · cases h

lemma length_octets {fuel : Nat} {bs s rest : Bytes} (h : octets fuel bs = .ok (s, rest)) :
    rest.length < bs.length := by
  induction fuel generalizing bs s rest with
  | zero => cases h
  | succ fuel ih =>
    cases bs with
    | nil => cases h
    | cons b bs =>
      unfold octets at h
      split_ifs at h
      · obtain ⟨-, rfl⟩ := Prod.mk.inj (Except.ok.inj h)
        simp
      · obtain ⟨⟨n, rest'⟩, hinteger, h⟩ := bind_eq_ok.1 h
        have hlt := length_integer hinteger
        dsimp only at h
        split_ifs at h
        obtain ⟨⟨os, rest''⟩, hoctets, h⟩ := bind_eq_ok.1 h
        have hlt' := ih hoctets
        obtain ⟨-, rfl⟩ := Prod.mk.inj (Except.ok.inj h)
        simp only [List.length_cons]
        omega
      · obtain ⟨_, -, h⟩ := bind_eq_ok.1 h
        cases h

lemma length_key {bs s rest : Bytes} (h : key bs = .ok (s, rest)) : rest.length < bs.length := by
  cases bs with
  | nil => cases h
  | cons b bs =>
    rw [key] at h
    split_ifs at h
    · obtain ⟨_, -, h⟩ := bind_eq_ok.1 h
      cases h
    · have hlt := length_octets h
      simp only [List.length_cons]
      omega
    · have hlt := length_byteString h
      omega

mutual

/-- A value weighs no more than the octets it was read from. -/
theorem weight_decodeValue : (fuel : Nat) → {bs rest : Bytes} → {v : Value} →
    decodeValue fuel bs = .ok (v, rest) → v.weight + rest.length ≤ bs.length
  | 0, _, _, _, h => by cases h
  | _ + 1, [], _, _, h => by cases h
  | fuel + 1, b :: bs, rest, v, h => by
    unfold decodeValue at h
    split_ifs at h
    · obtain ⟨⟨n, rest'⟩, hinteger, h⟩ := bind_eq_ok.1 h
      obtain ⟨rfl, rfl⟩ := Prod.mk.inj (Except.ok.inj h)
      have hlt := length_integer hinteger
      simp only [Value.weight, List.length_cons]
      omega
    · obtain ⟨⟨items, rest'⟩, hitems, h⟩ := bind_eq_ok.1 h
      obtain ⟨rfl, rfl⟩ := Prod.mk.inj (Except.ok.inj h)
      have hle := weight_decodeItems fuel hitems
      simp only [Value.weight, List.length_cons]
      omega
    · obtain ⟨⟨entries, rest'⟩, hentries, h⟩ := bind_eq_ok.1 h
      obtain ⟨rfl, rfl⟩ := Prod.mk.inj (Except.ok.inj h)
      have hle := weight_decodeEntries fuel hentries
      simp only [Value.weight, List.length_cons]
      omega
    · obtain ⟨⟨s, rest'⟩, hstring, h⟩ := bind_eq_ok.1 h
      obtain ⟨rfl, rfl⟩ := Prod.mk.inj (Except.ok.inj h)
      have hlt := length_byteString hstring
      simp only [Value.weight]
      omega

theorem weight_decodeItems : (fuel : Nat) → {bs rest : Bytes} → {vs : List Value} →
    decodeItems fuel bs = .ok (vs, rest) → itemsWeight vs + rest.length ≤ bs.length
  | 0, _, _, _, h => by cases h
  | _ + 1, [], _, _, h => by cases h
  | fuel + 1, b :: bs, rest, vs, h => by
    unfold decodeItems at h
    split_ifs at h
    · obtain ⟨rfl, rfl⟩ := Prod.mk.inj (Except.ok.inj h)
      simp [itemsWeight]
    · obtain ⟨⟨v, rest'⟩, hv, h⟩ := bind_eq_ok.1 h
      obtain ⟨⟨vs', rest''⟩, hvs, h⟩ := bind_eq_ok.1 h
      obtain ⟨rfl, rfl⟩ := Prod.mk.inj (Except.ok.inj h)
      have hle := weight_decodeValue fuel hv
      have hle' := weight_decodeItems fuel hvs
      simp only [itemsWeight]
      omega

theorem weight_decodeEntries : (fuel : Nat) → {bs rest : Bytes} → {es : List Entry} →
    decodeEntries fuel bs = .ok (es, rest) → entriesWeight es + rest.length ≤ bs.length
  | 0, _, _, _, h => by cases h
  | _ + 1, [], _, _, h => by cases h
  | fuel + 1, b :: bs, rest, es, h => by
    unfold decodeEntries at h
    split_ifs at h
    · obtain ⟨rfl, rfl⟩ := Prod.mk.inj (Except.ok.inj h)
      simp [entriesWeight]
    · obtain ⟨⟨k, rest₀⟩, hk, h⟩ := bind_eq_ok.1 h
      obtain ⟨⟨v, rest'⟩, hv, h⟩ := bind_eq_ok.1 h
      obtain ⟨⟨es', rest''⟩, hes, h⟩ := bind_eq_ok.1 h
      obtain ⟨rfl, rfl⟩ := Prod.mk.inj (Except.ok.inj h)
      have hlt := length_key hk
      have hle := weight_decodeValue fuel hv
      have hle' := weight_decodeEntries fuel hes
      simp only [entriesWeight]
      omega

end

/-- What is read from a datagram weighs no more than the datagram has octets. -/
theorem weight_decode {bs rest : Bytes} {v : Value} (h : decode bs = .ok (v, rest)) :
    v.weight ≤ bs.length := by
  have hle := weight_decodeValue _ h
  omega

/-! ### What is kept of a dictionary -/

lemma entriesWeight_insertFresh (k : Bytes) (v : Value) (es : List Entry) :
    entriesWeight (insertFresh k v es) ≤ v.weight + entriesWeight es := by
  induction es with
  | nil => simp [insertFresh, entriesWeight]
  | cons e es ih =>
    obtain ⟨k', w⟩ := e
    simp only [insertFresh]
    split
    · simp [entriesWeight]
    · simp only [entriesWeight]
      omega
    · simp only [entriesWeight]
      omega

mutual

/-- Leaving out entries of equal keys takes weight away. -/
theorem Value.weight_normal : (v : Value) → v.normal.weight ≤ v.weight
  | .int n => by simp [Value.normal]
  | .bytes bs => by simp [Value.normal]
  | .list items => by
    have hitems := itemsWeight_normal items
    simp only [Value.normal, Value.weight]
    omega
  | .dict entries => by
    have hentries := entriesWeight_normal entries
    simp only [Value.normal, Value.weight]
    omega

theorem itemsWeight_normal : (vs : List Value) → itemsWeight (normalItems vs) ≤ itemsWeight vs
  | [] => by simp [normalItems]
  | v :: vs => by
    have hv := v.weight_normal
    have hvs := itemsWeight_normal vs
    simp only [normalItems, itemsWeight]
    omega

theorem entriesWeight_normal : (es : List Entry) →
    entriesWeight (normalEntries es) ≤ entriesWeight es
  | [] => by simp [normalEntries]
  | (k, v) :: es => by
    have hv := v.weight_normal
    have hes := entriesWeight_normal es
    have hinsert := entriesWeight_insertFresh k v.normal (normalEntries es)
    simp only [normalEntries, entriesWeight]
    omega

end

/-- How much there is in a dictionary. -/
def Dict.weight (d : Dict) : Nat :=
  entriesWeight d.entries

lemma Dict.weight_ofEntries (es : List Entry) : (Dict.ofEntries es).weight ≤ entriesWeight es :=
  entriesWeight_normal es

lemma Dict.weight_of_mem {d : Dict} {e : Entry} (h : e ∈ d.entries) : e.2.weight ≤ d.weight :=
  weight_le_entriesWeight h

lemma Dict.weight_get? {d : Dict} {k : Bytes} {v : Value} (h : d.get? k = some v) :
    v.weight ≤ d.weight := by
  obtain ⟨e, he, rfl⟩ := Option.map_eq_some_iff.1 h
  exact weight_of_mem (List.mem_of_find?_eq_some he)

end Kademlia.Bencode
