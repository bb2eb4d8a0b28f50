import Mathlib
import Kademlia.Text.Decimal

/-!
# Reading decimal numbers back

The written form of a number is made of digits, and of a minus sign for a negative one. Reading it
gives the number back if it fits, the least integer included.
-/

namespace Kademlia.Decimal

lemma toNat_octet {c : Char} (h : c.isDigit = true) : (UInt8.ofNat c.toNat).toNat = c.toNat := by
  have hc := (Char.isDigit_iff_toNat.1 h).2
  simp only [Char.isValue, Char.reduceToNat] at hc
  rw [UInt8.toNat_ofNat', Nat.mod_eq_of_lt (by omega)]

lemma isDigit_octet {c : Char} (h : c.isDigit = true) : isDigit (UInt8.ofNat c.toNat) = true := by
  have hc := Char.isDigit_iff_toNat.1 h
  simp only [Char.isValue, Char.reduceToNat] at hc
  simp only [isDigit, Bool.and_eq_true, decide_eq_true_eq, UInt8.le_iff_toNat_le, toNat_octet h]
  exact hc

lemma isDigit_of_mem_ofNat {n : Nat} {b : UInt8} (h : b ∈ ofNat n) : isDigit b = true := by
  obtain ⟨c, hc, rfl⟩ := List.mem_map.1 h
  exact isDigit_octet (Nat.isDigit_of_mem_toDigits (by decide) (by decide) hc)

lemma ofNat_ne_nil (n : Nat) : ofNat n ≠ [] := by
  simp [ofNat, Nat.toDigits_ne_nil]

/-- The octets of digits are read as the digits are. -/
lemma foldl_octets {cs : List Char} (h : ∀ c ∈ cs, c.isDigit = true) (n : Nat) :
    (cs.map fun c => UInt8.ofNat c.toNat).foldl (fun n b => n * 10 + (b.toNat - 48)) n =
      Nat.ofDigitChars 10 cs n := by
  induction cs generalizing n with
  | nil => simp
  | cons c cs ih =>
    rw [List.map_cons, List.foldl_cons, Nat.ofDigitChars_cons, toNat_octet (h c (by simp)),
      ih fun d hd => h d (List.mem_cons_of_mem c hd), mul_comm]
    rfl

lemma toNat?_ofNat (n : Nat) : toNat? (ofNat n) = some n := by
  have hdigits : (ofNat n).all isDigit = true :=
    List.all_eq_true.2 fun b hb => isDigit_of_mem_ofNat hb
  have hcond : ((ofNat n).isEmpty || !(ofNat n).all isDigit) = false := by
    simp [hdigits, ofNat_ne_nil]
  have hvalue : (ofNat n).foldl (fun n b => n * 10 + (b.toNat - 48)) 0 = n := by
    rw [ofNat, foldl_octets fun c hc => Nat.isDigit_of_mem_toDigits (by decide) (by decide) hc]
    exact Nat.ofDigitChars_ten_toDigits
  rw [toNat?, hcond, hvalue]
  rfl

/-- A number is read back if it is below the bound. -/
lemma toNatBelow?_ofNat {bound n : Nat} (h : n < bound) : toNatBelow? bound (ofNat n) = some n := by
  rw [toNatBelow?_eq (Nat.zero_lt_of_lt h), toNat?_ofNat]
  simp [h]

lemma isDigit_ne {b c : UInt8} (hb : isDigit b = true) (hc : isDigit c = false) : b ≠ c := by
  rintro rfl
  rw [hb] at hc
  exact absurd hc (by simp)

/-- No sign and no mark stands in the written form of an integer but a first minus sign. -/
lemma ne_of_mem_ofInt {i : Int} {b c : UInt8} (hb : b ∈ ofInt i) (hc : isDigit c = false)
    (hminus : c ≠ minus) : b ≠ c := by
  cases i with
  | ofNat n => exact isDigit_ne (isDigit_of_mem_ofNat hb) hc
  | negSucc n =>
    rcases List.mem_cons.1 hb with rfl | hb
    · exact hminus.symm
    · exact isDigit_ne (isDigit_of_mem_ofNat hb) hc

/-- Every integer of 64 bits is read back. -/
theorem toInt64?_ofInt (n : Int64) : toInt64? (ofInt n.toInt) = some n := by
  have hlimit : Int64.minValue.toInt.natAbs = 2 ^ 63 := by decide
  have hback : Int64.ofInt n.toInt = n := Int64.ofInt_toInt n
  have hlow := n.le_toInt
  have hhigh := n.toInt_lt
  generalize n.toInt = i at hback hlow hhigh
  cases i with
  | ofNat m =>
    have hm : m < 2 ^ 63 := by
      rw [Int.ofNat_eq_natCast] at hhigh
      exact_mod_cast hhigh
    have hread := toNatBelow?_ofNat hm
    cases hdigits : ofNat m with
    | nil => exact absurd hdigits (ofNat_ne_nil m)
    | cons b bs =>
      have hb : isDigit b = true := isDigit_of_mem_ofNat (hdigits ▸ List.mem_cons_self)
      have hminus : b ≠ minus := isDigit_ne hb (by decide)
      have hplus : b ≠ plus := isDigit_ne hb (by decide)
      rw [hdigits] at hread
      simp only [ofInt, hdigits, toInt64?, hlimit]
      rw [if_neg hminus, if_neg hplus, hread, Option.map_some, ← Int64.ofInt_eq_ofNat]
      exact congrArg some hback
  | negSucc m =>
    have hm : m + 1 < 2 ^ 63 + 1 := by
      rw [Int.negSucc_eq] at hlow
      omega
    simp only [ofInt, toInt64?, hlimit]
    rw [if_pos trivial, toNatBelow?_ofNat hm]
    exact congrArg some hback

end Kademlia.Decimal
