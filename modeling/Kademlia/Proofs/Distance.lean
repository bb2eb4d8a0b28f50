import Mathlib
import Kademlia.Proofs.Metric

/-!
# Distances as bit lengths

The exclusive or of two identifiers is that of the numbers they stand for, and the distance is its bit
length: the zero bits in front of an octet string and the bits of its number add up to all bits there
are. The count of the zero bits also fits the words in which a machine computes it.
-/

namespace Kademlia

namespace Bytes

lemma pow_256 (n : Nat) : 256 ^ n = 2 ^ (8 * n) :=
  (pow_mul 2 8 n).symm

lemma toNat_xor {a b : Bytes} (h : a.length = b.length) :
    toNat (xor a b) = toNat a ^^^ toNat b := by
  induction a generalizing b with
  | nil =>
    obtain rfl := List.length_eq_zero_iff.1 h.symm
    rfl
  | cons x xs ih =>
    obtain ⟨y, ys, rfl⟩ := List.exists_cons_of_length_eq_add_one h.symm
    have hlen : xs.length = ys.length := by simpa using h
    have hxs := toNat_lt xs
    have hys := toNat_lt ys
    have hxor := Nat.xor_lt_two_pow (pow_256 ys.length ▸ hlen ▸ hxs) (pow_256 ys.length ▸ hys)
    rw [hlen, pow_256] at hxs
    rw [pow_256] at hys
    have hcons : xor (x :: xs) (y :: ys) = (x ^^^ y) :: xor xs ys := rfl
    rw [hcons, toNat_cons, toNat_cons, toNat_cons, ih hlen, length_xor, hlen, min_self, pow_256]
    -- bit by bit, either of the last octets or of the first one
    refine Nat.eq_of_testBit_eq fun i => ?_
    rw [Nat.testBit_xor, mul_comm, mul_comm x.toNat, mul_comm y.toNat,
      Nat.testBit_two_pow_mul_add _ hxor, Nat.testBit_two_pow_mul_add _ hxs,
      Nat.testBit_two_pow_mul_add _ hys]
    split
    · exact Nat.testBit_xor ..
    · rw [UInt8.toNat_xor, Nat.testBit_xor]

/-- The bits of a number after some octet that is not zero. -/
lemma size_mul_pow_add {b k r : Nat} (hb : b ≠ 0) (hr : r < 2 ^ k) :
    (b * 2 ^ k + r).size = b.log2 + 1 + k := by
  have hlarge : b.log2 + k < (b * 2 ^ k + r).size := by
    refine Nat.lt_size.2 ?_
    calc 2 ^ (b.log2 + k)
      _ = 2 ^ b.log2 * 2 ^ k := pow_add ..
      _ ≤ b * 2 ^ k := Nat.mul_le_mul_right _ (Nat.log2_self_le hb)
      _ ≤ b * 2 ^ k + r := Nat.le_add_right ..
  have hsmall : (b * 2 ^ k + r).size ≤ b.log2 + 1 + k := by
    refine Nat.size_le.2 ?_
    calc b * 2 ^ k + r
      _ < (b + 1) * 2 ^ k := by rw [add_mul, one_mul]; omega
      _ ≤ 2 ^ (b.log2 + 1) * 2 ^ k := Nat.mul_le_mul_right _ Nat.lt_log2_self
      _ = 2 ^ (b.log2 + 1 + k) := (pow_add ..).symm
  omega

lemma log2_octet_le (b : UInt8) : b.toNat.log2 ≤ 7 := by
  by_cases hb : b.toNat = 0
  · rw [hb]
    decide
  · exact Nat.le_of_lt_succ ((Nat.log2_lt hb).2 b.toNat_lt)

/-- Every bit is one of the zero bits in front or one of the number. -/
lemma size_add_leadingZeros (bs : Bytes) :
    (toNat bs).size + leadingZeros bs = 8 * bs.length := by
  induction bs with
  | nil => rfl
  | cons b bs ih =>
    rw [toNat_cons, leadingZeros, List.length_cons, pow_256]
    by_cases hb : b = 0
    · rw [if_pos hb, hb, UInt8.toNat_zero, zero_mul, zero_add]
      omega
    · have hnumber : b.toNat ≠ 0 := fun h => hb (UInt8.toNat_inj.1 h)
      have hoctet := log2_octet_le b
      rw [if_neg hb, size_mul_pow_add hnumber (pow_256 bs.length ▸ toNat_lt bs)]
      omega

/-! ### In words -/

/-- How many bits are zero before the first one that is not, counted in a word from the octet numbered
`i`; nothing if there is no such bit. -/
def zerosInWord (i : UInt32) : Bytes → Option UInt32
  | [] => none
  | b :: bs =>
    if b = 0 then zerosInWord (i + 1) bs else some (i * 8 + UInt32.ofNat (7 - b.toNat.log2))

/-- The word is the count, as long as the bits can be counted in it. -/
lemma zerosInWord_eq (bs : Bytes) {m : Nat} (h : 8 * (m + bs.length) < 2 ^ 32) :
    zerosInWord (UInt32.ofNat m) bs =
      if toNat bs = 0 then none else some (UInt32.ofNat (8 * m + leadingZeros bs)) := by
  induction bs generalizing m with
  | nil => rfl
  | cons b bs ih =>
    rw [List.length_cons] at h
    rw [zerosInWord, leadingZeros, toNat_cons]
    by_cases hb : b = 0
    · have hnext : UInt32.ofNat m + 1 = UInt32.ofNat (m + 1) := (UInt32.ofNat_add m 1).symm
      rw [if_pos hb, if_pos hb, hb, UInt8.toNat_zero, zero_mul, zero_add, hnext, ih (by omega)]
      congr 3
      omega
    · have hnumber : b.toNat ≠ 0 := fun h => hb (UInt8.toNat_inj.1 h)
      have hpos : b.toNat * 256 ^ bs.length + toNat bs ≠ 0 := by positivity
      rw [if_neg hb, if_neg hb, if_neg hpos, UInt32.ofNat_add, mul_comm 8 m, UInt32.ofNat_mul]
      rfl

end Bytes

namespace Id

/-- The distance as a machine computes it: the zero bits are counted in a word, which is narrowed to an
octet and taken from 160. -/
def distanceInWords (a b : Id) : UInt8 :=
  match Bytes.zerosInWord 0 (xor a b).bytes with
  | some zeros => 160 - zeros.toUInt8
  | none => 0

/-- The exclusive or of two identifiers as numbers. -/
lemma toNat_xor (a b : Id) : (xor a b).toNat = a.toNat ^^^ b.toNat :=
  Bytes.toNat_xor (a.length_bytes.trans b.length_bytes.symm)

lemma toNat_injective : Function.Injective toNat := fun a b h =>
  eq_of_bytes_eq (Bytes.toNat_injective (a.length_bytes.trans b.length_bytes.symm) h)

lemma xor_toNat_eq_zero_iff {a b : Id} : a.toNat ^^^ b.toNat = 0 ↔ a = b := by
  rw [Nat.xor_eq_zero_iff]
  exact ⟨fun h => toNat_injective h, congrArg toNat⟩

lemma distance_eq_size (a b : Id) : a.distance b = (a.toNat ^^^ b.toNat).size := by
  have hbits := Bytes.size_add_leadingZeros (xor a b).bytes
  have hnumber : Bytes.toNat (xor a b).bytes = a.toNat ^^^ b.toNat := toNat_xor a b
  rw [(xor a b).length_bytes, hnumber] at hbits
  rw [distance]
  omega

lemma distance_eq_zero_iff {a b : Id} : a.distance b = 0 ↔ a = b := by
  rw [distance_eq_size, Nat.size_eq_zero, xor_toNat_eq_zero_iff]

/-- Whoever is at a smaller distance is closer. -/
lemma xor_lt_of_distance_lt {self a b : Id} (h : self.distance a < self.distance b) :
    a.toNat ^^^ self.toNat < b.toNat ^^^ self.toNat := by
  rw [distance_eq_size, distance_eq_size] at h
  rw [Nat.xor_comm a.toNat, Nat.xor_comm b.toNat]
  by_contra hle
  exact absurd h (Nat.size_le_size (Nat.le_of_not_lt hle)).not_gt

/-- What is narrowed is less than 160 and stays what it is. -/
lemma zerosInWord_xor (a b : Id) :
    (a = b ∧ Bytes.zerosInWord 0 (xor a b).bytes = none) ∨
      ∃ zeros, Bytes.zerosInWord 0 (xor a b).bytes = some zeros ∧ zeros.toNat < 160 ∧
        zeros.toUInt8.toNat = zeros.toNat ∧ a.distance b = 160 - zeros.toNat := by
  have hwords := Bytes.zerosInWord_eq (m := 0) (xor a b).bytes
    (by rw [(xor a b).length_bytes]; decide)
  have hnumber : Bytes.toNat (xor a b).bytes = a.toNat ^^^ b.toNat := toNat_xor a b
  have hbits := Bytes.size_add_leadingZeros (xor a b).bytes
  rw [hnumber, (xor a b).length_bytes] at hbits
  rw [hnumber] at hwords
  by_cases hsame : a.toNat ^^^ b.toNat = 0
  · rw [if_pos hsame] at hwords
    exact .inl ⟨xor_toNat_eq_zero_iff.1 hsame, hwords⟩
  · have hsize := Nat.size_pos.2 (Nat.pos_of_ne_zero hsame)
    rw [if_neg hsame, mul_zero, zero_add] at hwords
    have hzeros : (UInt32.ofNat (Bytes.leadingZeros (xor a b).bytes)).toNat =
        Bytes.leadingZeros (xor a b).bytes := UInt32.toNat_ofNat_of_lt' (show _ < 2 ^ 32 by omega)
    refine .inr ⟨_, hwords, by omega, ?_, by rw [hzeros, distance]⟩
    rw [UInt32.toNat_toUInt8, hzeros]
    omega

/-- The computation in words is exact. -/
lemma toNat_distanceInWords (a b : Id) : (distanceInWords a b).toNat = a.distance b := by
  rw [distanceInWords]
  rcases zerosInWord_xor a b with ⟨rfl, hnone⟩ | ⟨zeros, hzeros, hless, hnarrow, hdistance⟩
  · rw [hnone, distance_eq_zero_iff.2 rfl]
    rfl
  · have hle : zeros.toUInt8 ≤ 160 := UInt8.le_iff_toNat_le.2 (by rw [hnarrow]; exact hless.le)
    rw [hzeros, hdistance]
    show (160 - zeros.toUInt8).toNat = _
    rw [UInt8.toNat_sub_of_le _ _ hle, hnarrow]
    rfl

end Id

end Kademlia
