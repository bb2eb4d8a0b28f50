import Mathlib
import Kademlia.Digest.Crc32c

/-!
# The checksum as a polynomial remainder

A checksum of this kind is fixed by a generator polynomial over the field of two elements and some
conventions: which end of an octet comes first, with what the remainder starts, what is done to it in the
end. Here the register of CRC-32C is read as a polynomial, and what each bit of a message does to it is a
multiplication by `X` up to a multiple of the generator. So the checksum is the remainder that
CRC-32/ISCSI prescribes, and it is affine in the message: octets behind a difference multiply it by a
power of `X`, which has an inverse modulo the generator.
-/

namespace Kademlia.Crc32c

open Polynomial

/-! ### Words as polynomials -/

/-- The lowest bit of a word is the constant coefficient. -/
noncomputable def ofWord {w : Nat} (r : BitVec w) : (ZMod 2)[X] :=
  ∑ i ∈ Finset.range w, if r.getLsbD i then X ^ i else 0

/-- The highest bit of a word is the constant coefficient. -/
noncomputable def ofReflected {w : Nat} (r : BitVec w) : (ZMod 2)[X] :=
  ∑ i ∈ Finset.range w, if r.getMsbD i then X ^ i else 0

/-- The generator of CRC-32/ISCSI. Its leading coefficient is left out of the word. -/
noncomputable def generator : (ZMod 2)[X] :=
  X ^ 32 + ofWord 0x1EDC6F41#32

/-- The octets of a message follow each other from the highest power down, each with its lowest bit
first. -/
noncomputable def ofMessage : Bytes → (ZMod 2)[X]
  | [] => 0
  | b :: bs => ofReflected b.toBitVec * X ^ (8 * bs.length) + ofMessage bs

/-- The CRC-32/ISCSI of a message: 32 zero bits are appended, the first 32 bits are inverted, and the
remainder by the generator is reflected and inverted. -/
def IsCrc32Iscsi (bs : Bytes) (c : BitVec 32) : Prop :=
  ofReflected (~~~c) =
    (ofMessage bs * X ^ 32 + ofWord (BitVec.allOnes 32) * X ^ (8 * bs.length)) %ₘ generator

variable {w : Nat}

lemma coeff_sum_bits (bits : Nat → Bool) (n i : Nat) :
    (∑ j ∈ Finset.range n, if bits j then X ^ j else 0 : (ZMod 2)[X]).coeff i =
      if i < n ∧ bits i then 1 else 0 := by
  have hterm (j : Nat) : (if bits j then X ^ j else 0 : (ZMod 2)[X]).coeff i =
      if i = j then if bits i then 1 else 0 else 0 := by
    by_cases hi : i = j
    · subst hi
      cases bits i <;> simp
    · rw [if_neg hi]
      cases bits j <;> simp [coeff_X_pow, hi]
  simp only [finsetSum_coeff, hterm, Finset.sum_ite_eq, Finset.mem_range, ite_and]

lemma coeff_ofWord (r : BitVec w) (i : Nat) :
    (ofWord r).coeff i = if r.getLsbD i then 1 else 0 := by
  rw [ofWord, coeff_sum_bits]
  refine if_congr (and_iff_right_of_imp fun h => ?_) rfl rfl
  exact BitVec.lt_of_getLsbD h

lemma coeff_ofReflected (r : BitVec w) (i : Nat) :
    (ofReflected r).coeff i = if r.getMsbD i then 1 else 0 := by
  rw [ofReflected, coeff_sum_bits]
  refine if_congr (and_iff_right_of_imp fun h => ?_) rfl rfl
  exact BitVec.lt_of_getMsbD h

lemma degree_ofReflected_lt (r : BitVec w) : (ofReflected r).degree < w := by
  refine (degree_lt_iff_coeff_zero _ _).2 fun i hi => ?_
  rw [coeff_ofReflected, BitVec.getMsbD_of_ge _ _ hi]
  rfl

@[simp] lemma ofReflected_zero : ofReflected 0#w = 0 := by
  ext i
  rw [coeff_ofReflected, BitVec.getMsbD_zero]
  rfl

lemma ofReflected_injective : Function.Injective (ofReflected (w := w)) := by
  intro r r' h
  refine BitVec.eq_of_getMsbD_eq fun i _ => ?_
  have hcoeff := congrArg (coeff · i) h
  simp only [coeff_ofReflected] at hcoeff
  by_cases hr : r.getMsbD i <;> by_cases hr' : r'.getMsbD i <;> simp_all

/-- In the field of two elements exclusive or is addition. -/
lemma ofReflected_xor (r r' : BitVec w) :
    ofReflected (r ^^^ r') = ofReflected r + ofReflected r' := by
  ext i
  rw [coeff_add, coeff_ofReflected, coeff_ofReflected, coeff_ofReflected, BitVec.getMsbD_xor]
  cases r.getMsbD i <;> cases r'.getMsbD i <;> decide

/-- An octet stands in the lowest bits of a register, which are the highest powers. -/
lemma ofReflected_octet (b : UInt8) :
    ofReflected (b.toBitVec.setWidth 32) = ofReflected b.toBitVec * X ^ 24 := by
  ext i
  rw [coeff_mul_X_pow', coeff_ofReflected, coeff_ofReflected, BitVec.getMsbD_setWidth]
  by_cases hi : 24 ≤ i
  · have hplace : i + 8 - 32 = i - 24 := by omega
    simp [hi, hplace]
  · simp [hi]

/-! ### Division by the generator -/

lemma degree_terms_lt : (ofWord 0x1EDC6F41#32).degree < (32 : Nat) := by
  refine (degree_lt_iff_coeff_zero _ _).2 fun i hi => ?_
  rw [coeff_ofWord, BitVec.getLsbD_of_ge _ _ hi]
  rfl

lemma monic_generator : generator.Monic :=
  monic_X_pow_add degree_terms_lt

lemma degree_generator : generator.degree = (32 : Nat) := by
  rw [generator, degree_add_eq_left_of_degree_lt, degree_X_pow]
  rw [degree_X_pow]
  exact degree_terms_lt

/-- The word of the register algorithm is the generator without its leading coefficient, reflected. -/
lemma coeff_generator (i : Nat) :
    generator.coeff i = if i = 32 ∨ polynomial.getMsbD i then 1 else 0 := by
  rw [generator, coeff_add, coeff_X_pow, coeff_ofWord]
  by_cases hi : i < 32
  · interval_cases i <;> decide
  · rw [BitVec.getMsbD_of_ge _ _ (by omega), BitVec.getLsbD_of_ge _ _ (by omega)]
    simp

/-- The constant coefficient of the generator is one, so that powers of `X` have inverses. -/
lemma isCoprime_generator (n : Nat) : IsCoprime generator (X ^ n) := by
  have hconstant : generator.coeff 0 = 1 := by
    rw [coeff_generator]
    decide
  have hdivision := divX_mul_X_add generator
  rw [hconstant, map_one] at hdivision
  refine IsCoprime.pow_right ⟨1, -generator.divX, ?_⟩
  linear_combination -hdivision

/-- Equality up to multiples of the generator. -/
noncomputable abbrev residue : (ZMod 2)[X] →+* AdjoinRoot generator :=
  AdjoinRoot.mk generator

/-- The coefficient of the highest power leaves the register. -/
lemma getMsbD_bitStep (r : BitVec 32) (i : Nat) :
    (bitStep r).getMsbD i = ((decide (i < 32) && !decide (i < 1) && r.getMsbD (i - 1)) ^^
      (r.getMsbD 31 && polynomial.getMsbD i)) := by
  have hlast : r.getMsbD 31 = r.getLsbD 0 := by simp [BitVec.getMsbD_eq_getLsbD]
  rw [bitStep, BitVec.getMsbD_xor, BitVec.getMsbD_ushiftRight, hlast, Bool.and_assoc]
  cases r.getLsbD 0 <;> simp

/-- One more bit is a multiplication by `X`, after which the generator is subtracted if the product has
its degree. -/
lemma X_mul_ofReflected (r : BitVec 32) :
    X * ofReflected r = ofReflected (bitStep r) + if r.getMsbD 31 then generator else 0 := by
  have hif (i : Nat) : (if r.getMsbD 31 then generator else 0).coeff i =
      if r.getMsbD 31 ∧ (i = 32 ∨ polynomial.getMsbD i) then 1 else 0 := by
    rw [ite_and, ← coeff_generator]
    split_ifs <;> rfl
  ext (_ | i)
  · have hlowest : (bitStep r).getMsbD 0 = (r.getMsbD 31 && polynomial.getMsbD 0) := by
      simp [getMsbD_bitStep]
    rw [coeff_X_mul_zero, coeff_add, coeff_ofReflected, hlowest, hif]
    cases r.getMsbD 31 <;> decide
  · rw [coeff_X_mul, coeff_add, coeff_ofReflected, coeff_ofReflected, getMsbD_bitStep, hif,
      Nat.add_sub_cancel]
    rcases lt_trichotomy i 31 with hi | rfl | hi
    · have hplace : i + 1 ≠ 32 := by omega
      have hkept : (decide (i + 1 < 32) && !decide (i + 1 < 1) && r.getMsbD i) = r.getMsbD i := by
        have hin : i + 1 < 32 := by omega
        simp [hin]
      rw [hkept]
      simp only [hplace, false_or]
      cases r.getMsbD 31 <;> cases r.getMsbD i <;> cases polynomial.getMsbD (i + 1) <;> decide
    · cases r.getMsbD 31 <;> simp
    · rw [BitVec.getMsbD_of_ge r i (by omega), BitVec.getMsbD_of_ge polynomial (i + 1) (by omega)]
      have hplace : i + 1 ≠ 32 := by omega
      simp [hplace]

/-- Each octet first enters the register at its highest powers. -/
lemma residue_bitStep (r : BitVec 32) :
    residue (ofReflected (bitStep r)) = residue (X * ofReflected r) := by
  rw [X_mul_ofReflected, map_add]
  split_ifs
  · rw [AdjoinRoot.mk_self, add_zero]
  · rw [map_zero, add_zero]

lemma residue_bitSteps (n : Nat) (r : BitVec 32) :
    residue (ofReflected (bitSteps n r)) = residue (X ^ n * ofReflected r) := by
  induction n generalizing r with
  | zero => rw [bitSteps, pow_zero, one_mul]
  | succ n ih =>
    calc residue (ofReflected (bitSteps n (bitStep r)))
        = residue (X ^ n) * residue (ofReflected (bitStep r)) := by rw [ih, map_mul]
      _ = residue (X ^ (n + 1) * ofReflected r) := by
        rw [residue_bitStep, ← map_mul, ← mul_assoc, ← pow_succ]

/-- An octet enters the register at its highest powers, and eight bits leave it. -/
lemma residue_step (r : BitVec 32) (b : UInt8) :
    residue (ofReflected (step r b)) =
      residue (ofReflected b.toBitVec * X ^ 32 + ofReflected r * X ^ 8) := by
  rw [step, residue_bitSteps, ofReflected_xor, ofReflected_octet]
  congr 1
  ring

lemma residue_update (r : BitVec 32) (bs : Bytes) :
    residue (ofReflected (update r bs)) =
      residue (ofMessage bs * X ^ 32 + ofReflected r * X ^ (8 * bs.length)) := by
  induction bs generalizing r with
  | nil => simp [update, ofMessage]
  | cons b bs ih =>
    have hshift : (ofReflected b.toBitVec * X ^ 32 + ofReflected r * X ^ 8) * X ^ (8 * bs.length) +
        ofMessage bs * X ^ 32 =
        ofMessage (b :: bs) * X ^ 32 + ofReflected r * X ^ (8 * (b :: bs).length) := by
      rw [ofMessage, List.length_cons]
      ring
    calc residue (ofReflected (update (step r b) bs))
        = residue (ofReflected (step r b)) * residue (X ^ (8 * bs.length)) +
            residue (ofMessage bs * X ^ 32) := by rw [ih, map_add, map_mul _ (ofReflected _), add_comm]
      _ = residue (ofMessage (b :: bs) * X ^ 32 + ofReflected r * X ^ (8 * (b :: bs).length)) := by
          rw [residue_step, ← map_mul, ← map_add, hshift]

/-! ### The checksum -/

lemma ofReflected_allOnes : ofReflected (BitVec.allOnes w) = ofWord (BitVec.allOnes w) := by
  ext i
  rw [coeff_ofReflected, coeff_ofWord, BitVec.getMsbD_allOnes, BitVec.getLsbD_allOnes]

/-- A register is the remainder of what it equals up to multiples of the generator. -/
lemma eq_modByMonic_of_residue {r : BitVec 32} {p : (ZMod 2)[X]}
    (h : residue (ofReflected r) = residue p) : ofReflected r = p %ₘ generator := by
  have hreduced : ofReflected r %ₘ generator = ofReflected r := by
    refine (modByMonic_eq_self_iff monic_generator).2 ?_
    rw [degree_generator]
    exact degree_ofReflected_lt r
  rw [← hreduced]
  exact modByMonic_eq_of_dvd_sub monic_generator (AdjoinRoot.mk_eq_mk.1 h)

theorem isCrc32Iscsi_checksum (bs : Bytes) : IsCrc32Iscsi bs (checksum bs) := by
  rw [IsCrc32Iscsi, checksum, BitVec.not_not, ← ofReflected_allOnes]
  exact eq_modByMonic_of_residue (residue_update _ bs)

theorem isCrc32Iscsi_iff {bs : Bytes} {c : BitVec 32} : IsCrc32Iscsi bs c ↔ c = checksum bs := by
  refine ⟨fun h => ?_, fun h => h ▸ isCrc32Iscsi_checksum bs⟩
  have hsame : ofReflected (~~~c) = ofReflected (~~~checksum bs) :=
    h.trans (isCrc32Iscsi_checksum bs).symm
  exact BitVec.not_inj.1 (ofReflected_injective hsame)

/-- The published check value. -/
example : checksum [0x31, 0x32, 0x33, 0x34, 0x35, 0x36, 0x37, 0x38, 0x39] = 0xE3069283#32 := by
  decide +kernel

/-! ### Messages with a common tail -/

lemma ofMessage_append (bs tail : Bytes) :
    ofMessage (bs ++ tail) = ofMessage bs * X ^ (8 * tail.length) + ofMessage tail := by
  induction bs with
  | nil => simp [ofMessage]
  | cons b bs ih =>
    rw [List.cons_append, ofMessage, ofMessage, ih, List.length_append]
    ring

lemma coeff_ofMessage_of_le {bs : Bytes} {i : Nat} (h : 8 * bs.length ≤ i) :
    (ofMessage bs).coeff i = 0 := by
  induction bs with
  | nil => rfl
  | cons b bs ih =>
    rw [List.length_cons] at h
    rw [ofMessage, coeff_add, ih (by omega), coeff_mul_X_pow', if_pos (by omega), coeff_ofReflected,
      BitVec.getMsbD_of_ge _ _ (by omega)]
    rfl

lemma coeff_ofMessage_cons (b : UInt8) (bs : Bytes) (i : Nat) :
    (ofMessage (b :: bs)).coeff (8 * bs.length + i) = (ofReflected b.toBitVec).coeff i := by
  rw [ofMessage, coeff_add, coeff_ofMessage_of_le (Nat.le_add_right _ _), add_zero, add_comm,
    coeff_mul_X_pow]

lemma ofMessage_inj {a b : Bytes} (h : a.length = b.length) : ofMessage a = ofMessage b ↔ a = b := by
  refine ⟨fun heq => ?_, fun hab => hab ▸ rfl⟩
  induction a generalizing b with
  | nil => exact (List.length_eq_zero_iff.1 h.symm).symm
  | cons x xs ih =>
    obtain ⟨y, ys, rfl⟩ := List.exists_cons_of_length_eq_add_one h.symm
    have hlen : xs.length = ys.length := by simpa using h
    have hoctet : ofReflected x.toBitVec = ofReflected y.toBitVec := by
      ext i
      rw [← coeff_ofMessage_cons x xs i, ← coeff_ofMessage_cons y ys i, heq, hlen]
    have hrest : ofMessage xs = ofMessage ys := by
      rw [ofMessage, ofMessage, hoctet, hlen] at heq
      exact add_left_cancel heq
    rw [UInt8.toBitVec_inj.1 (ofReflected_injective hoctet), ih hlen hrest]

/-- The tail only multiplies the difference, whatever its octets. -/
theorem xor_checksum_append {a b : Bytes} (h : a.length = b.length) (tail : Bytes) :
    ofReflected (checksum (a ++ tail) ^^^ checksum (b ++ tail)) =
      ((ofMessage a + ofMessage b) * X ^ (8 * tail.length + 32)) %ₘ generator := by
  have hinverted (r r' : BitVec 32) : ~~~r ^^^ ~~~r' = r ^^^ r' := by
    rw [← BitVec.not_xor_left, ← BitVec.not_xor_right, BitVec.not_not]
  have hlen : (b ++ tail).length = (a ++ tail).length := by
    rw [List.length_append, List.length_append, h]
  rw [checksum, checksum, hinverted]
  refine eq_modByMonic_of_residue ?_
  rw [ofReflected_xor, map_add, residue_update, residue_update, ← map_add, hlen, ofMessage_append,
    ofMessage_append]
  -- what the tail and the first register add to both remainders cancels
  have hcommon := CharTwo.add_self_eq_zero (ofMessage tail * X ^ 32 +
    ofReflected (BitVec.allOnes 32) * X ^ (8 * (a ++ tail).length))
  refine congrArg residue ?_
  linear_combination hcommon

/-- What multiplies the difference of at most four octets has an inverse. -/
theorem checksum_append_inj {a b : Bytes} (h : a.length = b.length) (hshort : a.length ≤ 4)
    (tail : Bytes) : checksum (a ++ tail) = checksum (b ++ tail) ↔ a = b := by
  refine ⟨fun heq => ?_, fun hab => hab ▸ rfl⟩
  have hremainder := xor_checksum_append h tail
  rw [heq, BitVec.xor_self, ofReflected_zero] at hremainder
  have hproduct : generator ∣ (ofMessage a + ofMessage b) * X ^ (8 * tail.length + 32) :=
    (modByMonic_eq_zero_iff_dvd monic_generator).1 hremainder.symm
  have hdifference : generator ∣ ofMessage a + ofMessage b :=
    (isCoprime_generator _).dvd_of_dvd_mul_right hproduct
  have hdegree : (ofMessage a + ofMessage b).degree < generator.degree := by
    rw [degree_generator]
    refine (degree_lt_iff_coeff_zero _ _).2 fun i hi => ?_
    rw [coeff_add, coeff_ofMessage_of_le (by omega), coeff_ofMessage_of_le (by omega), add_zero]
  have hzero := eq_zero_of_dvd_of_degree_lt hdifference hdegree
  exact (ofMessage_inj h).1 (CharTwo.add_eq_zero.1 hzero)

end Kademlia.Crc32c
