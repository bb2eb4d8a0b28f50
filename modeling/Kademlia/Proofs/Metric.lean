import Mathlib
import Kademlia.Id

/-!
# The metric of identifiers

Octet strings of one length compare as the big-endian numbers they stand for. So the comparison of
identifiers by their exclusive or with a target is that of natural numbers, and two identifiers are
equally far from a target only if they are the same.
-/

namespace Kademlia

namespace Bytes

lemma foldl_toNat (bs : Bytes) (n : Nat) :
    bs.foldl (fun n b => n * 256 + b.toNat) n = n * 256 ^ bs.length + toNat bs := by
  induction bs generalizing n with
  | nil => simp [toNat]
  | cons b bs ih =>
    simp only [toNat, List.foldl_cons, List.length_cons, zero_mul, zero_add]
    rw [ih, ih b.toNat]
    ring

@[simp] lemma toNat_cons (b : UInt8) (bs : Bytes) :
    toNat (b :: bs) = b.toNat * 256 ^ bs.length + toNat bs := by
  rw [toNat, List.foldl_cons, zero_mul, zero_add, foldl_toNat]

lemma toNat_lt (bs : Bytes) : toNat bs < 256 ^ bs.length := by
  induction bs with
  | nil => simp [toNat]
  | cons b bs ih =>
    have hb : b.toNat + 1 ≤ 256 := b.toNat_lt
    calc toNat (b :: bs)
      _ < b.toNat * 256 ^ bs.length + 256 ^ bs.length := by
        rw [toNat_cons]
        exact Nat.add_lt_add_left ih _
      _ = (b.toNat + 1) * 256 ^ bs.length := by ring
      _ ≤ 256 * 256 ^ bs.length := Nat.mul_le_mul_right _ hb
      _ = 256 ^ (b :: bs).length := by rw [List.length_cons, pow_succ]; ring

lemma compare_octet (x y : UInt8) : compare x y = compare x.toNat y.toNat := by
  simp only [compare, compareOfLessAndEq, UInt8.lt_iff_toNat_lt, UInt8.toNat_inj]

/-- The first octet that differs decides. -/
lemma compare_toNat {a b : Bytes} (h : a.length = b.length) :
    compare a b = compare (toNat a) (toNat b) := by
  induction a generalizing b with
  | nil =>
    obtain rfl := List.length_eq_zero_iff.1 h.symm
    rfl
  | cons x xs ih =>
    cases b with
    | nil => simp at h
    | cons y ys =>
      have hlen : xs.length = ys.length := by simpa using h
      have hxs := toNat_lt xs
      have hys := toNat_lt ys
      rw [List.compare_cons_cons, compare_octet, ih hlen, toNat_cons, toNat_cons]
      rw [hlen] at hxs ⊢
      rcases lt_trichotomy x.toNat y.toNat with hlt | heq | hgt
      · rw [compare_lt_iff_lt.2 hlt]
        refine (compare_lt_iff_lt.2 ?_).symm
        calc x.toNat * 256 ^ ys.length + toNat xs
          _ < (x.toNat + 1) * 256 ^ ys.length := by rw [add_mul, one_mul]; omega
          _ ≤ y.toNat * 256 ^ ys.length := Nat.mul_le_mul_right _ hlt
          _ ≤ y.toNat * 256 ^ ys.length + toNat ys := Nat.le_add_right ..
      · rw [heq, compare_eq_iff_eq.2 rfl, Ordering.then]
        simp only [compare, compareOfLessAndEq, Nat.add_lt_add_iff_left, Nat.add_left_cancel_iff]
      · rw [compare_gt_iff_gt.2 hgt]
        refine (compare_gt_iff_gt.2 ?_).symm
        calc y.toNat * 256 ^ ys.length + toNat ys
          _ < (y.toNat + 1) * 256 ^ ys.length := by rw [add_mul, one_mul]; omega
          _ ≤ x.toNat * 256 ^ ys.length := Nat.mul_le_mul_right _ hgt
          _ ≤ x.toNat * 256 ^ ys.length + toNat xs := Nat.le_add_right ..

lemma toNat_injective {a b : Bytes} (h : a.length = b.length) (heq : toNat a = toNat b) :
    a = b := by
  have hcompare := compare_toNat h
  rw [heq, compare_eq_iff_eq.2 rfl] at hcompare
  exact Std.LawfulEqCmp.eq_of_compare hcompare

lemma xor_right_cancel {a b c : Bytes} (ha : a.length = c.length) (hb : b.length = c.length)
    (h : xor a c = xor b c) : a = b := by
  induction c generalizing a b with
  | nil => rw [List.length_eq_zero_iff.1 ha, List.length_eq_zero_iff.1 hb]
  | cons z zs ih =>
    obtain ⟨x, xs, rfl⟩ := List.exists_cons_of_length_eq_add_one ha
    obtain ⟨y, ys, rfl⟩ := List.exists_cons_of_length_eq_add_one hb
    simp only [xor, List.zipWith_cons_cons, List.cons.injEq, UInt8.xor_left_inj] at h
    rw [h.1, ih (by simpa using ha) (by simpa using hb) h.2]

end Bytes

namespace Id

lemma eq_of_bytes_eq {a b : Id} (h : a.bytes = b.bytes) : a = b := by
  cases a
  cases b
  simpa using h

/-- No two identifiers are equally far from a target. -/
lemma xor_toNat_injective (target : Id) : Function.Injective fun a => (xor a target).toNat := by
  intro a b h
  have hbytes : Bytes.xor a.bytes target.bytes = Bytes.xor b.bytes target.bytes :=
    Bytes.toNat_injective (by simp [a.length_bytes, b.length_bytes]) h
  exact eq_of_bytes_eq (Bytes.xor_right_cancel (a.length_bytes.trans target.length_bytes.symm)
    (b.length_bytes.trans target.length_bytes.symm) hbytes)

lemma compareDistance_eq (target a b : Id) :
    compareDistance target a b = compare (xor a target).toNat (xor b target).toNat :=
  Bytes.compare_toNat ((xor a target).length_bytes.trans (xor b target).length_bytes.symm)

lemma nearer_iff {target a b : Id} :
    nearer target a b = true ↔ (xor a target).toNat ≤ (xor b target).toNat := by
  rw [nearer, compareDistance_eq, ← Nat.isLE_compare]

/-! ### Sorting -/

lemma nearer_trans (target a b c : Id) (hab : nearer target a b) (hbc : nearer target b c) :
    nearer target a c :=
  nearer_iff.2 ((nearer_iff.1 hab).trans (nearer_iff.1 hbc))

lemma nearer_total (target a b : Id) : (nearer target a b || nearer target b a) = true := by
  rw [Bool.or_eq_true, nearer_iff, nearer_iff]
  exact le_total _ _

/-- Of distinct identifiers no two are equally close, so they are sorted strictly. -/
lemma pairwise_mergeSort {α : Type} (target : Id) (f : α → Id) {xs : List α}
    (h : (xs.map f).Nodup) :
    (xs.mergeSort fun a b => nearer target (f a) (f b)).Pairwise
      fun a b => (xor (f a) target).toNat < (xor (f b) target).toNat := by
  have hsorted : (xs.mergeSort fun a b => nearer target (f a) (f b)).Pairwise
      fun a b => nearer target (f a) (f b) = true :=
    List.pairwise_mergeSort (fun a b c => nearer_trans target (f a) (f b) (f c))
      (fun a b => nearer_total target (f a) (f b)) xs
  have hdistinct : ((xs.mergeSort fun a b => nearer target (f a) (f b)).map f).Nodup :=
    ((List.mergeSort_perm _ _).map f).nodup_iff.2 h
  rw [List.nodup_iff_pairwise_ne, List.pairwise_map] at hdistinct
  refine (hsorted.and hdistinct).imp fun {a b} hab => ?_
  refine lt_of_le_of_ne (nearer_iff.1 hab.1) fun heq => hab.2 ?_
  exact xor_toNat_injective target heq

end Id

end Kademlia
