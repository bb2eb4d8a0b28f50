import Kademlia.Bytes
/-!
# Decimal numbers in bytes

Integers as ASCII digits. Writing gives the shortest form; reading also takes leading zeros and,
for signed numbers, one sign.
-/

namespace Kademlia.Decimal

/-- The octet of an ASCII minus sign. -/
def minus : UInt8 := 45

/-- The octet of an ASCII plus sign. -/
def plus : UInt8 := 43

/-- Is `b` an ASCII digit? -/
def isDigit (b : UInt8) : Bool :=
  48 ≤ b && b ≤ 57

/-- The decimal digits of `n`, without leading zeros. -/
def ofNat (n : Nat) : Bytes :=
  (Nat.toDigits 10 n).map fun c => UInt8.ofNat c.toNat

/-- The decimal digits of `n`, after a minus sign when it is negative. -/
def ofInt : Int → Bytes
  | .ofNat n => ofNat n
  | .negSucc n => minus :: ofNat (n + 1)

/-- The number written by one or more digits. -/
def toNat? (bs : Bytes) : Option Nat :=
  if bs.isEmpty || !bs.all isDigit then none
  else some (bs.foldl (fun n b => n * 10 + (b.toNat - 48)) 0)

/-- The number written by one or more digits, if it is below `bound`. Reading ends with the first
digit that makes it too large. -/
def toNatBelow? (bound : Nat) (bs : Bytes) : Option Nat :=
  if bs.isEmpty || !bs.all isDigit then none
  else bs.foldlM (fun n b => Option.guard (· < bound) (n * 10 + (b.toNat - 48))) 0

theorem foldl_ge (bs : Bytes) (n : Nat) : n ≤ bs.foldl (fun n b => n * 10 + (b.toNat - 48)) n := by
  induction bs generalizing n with
  | nil => exact Nat.le_refl n
  | cons b bs ih =>
    have step : n ≤ n * 10 + (b.toNat - 48) := by omega
    exact Nat.le_trans step (ih _)

theorem foldlM_guard (bound : Nat) (bs : Bytes) (n : Nat) (h : n < bound) :
    bs.foldlM (fun n b => Option.guard (· < bound) (n * 10 + (b.toNat - 48))) n =
      Option.guard (· < bound) (bs.foldl (fun n b => n * 10 + (b.toNat - 48)) n) := by
  induction bs generalizing n with
  | nil => simp [Option.guard, h]
  | cons b bs ih =>
    simp only [List.foldlM_cons, List.foldl_cons]
    by_cases hb : n * 10 + (b.toNat - 48) < bound
    · simp only [Option.guard, hb, decide_true, ↓reduceIte, Option.bind_eq_bind, Option.bind_some]
      exact ih _ hb
    · have := foldl_ge bs (n * 10 + (b.toNat - 48))
      have ge : ¬ bs.foldl (fun n b => n * 10 + (b.toNat - 48)) (n * 10 + (b.toNat - 48)) < bound := by
        omega
      simp [Option.guard, hb, ge]

theorem toNatBelow?_eq {bound : Nat} (h : 0 < bound) (bs : Bytes) :
    toNatBelow? bound bs = (toNat? bs).filter (· < bound) := by
  unfold toNatBelow? toNat?
  split
  · rfl
  · rw [foldlM_guard bound bs 0 h]
    simp [Option.guard, Option.filter]

/-- The integer written by digits after at most one sign. -/
def toInt? : Bytes → Option Int
  | [] => none
  | b :: bs =>
    if b = minus then (toNat? bs).map fun n => -(n : Int)
    else if b = plus then (toNat? bs).map fun n => (n : Int)
    else (toNat? (b :: bs)).map fun n => (n : Int)

/-- The 64-bit integer written by digits after at most one sign. -/
def toInt64? : Bytes → Option Int64
  | [] => none
  | b :: bs =>
    let limit := Int64.minValue.toInt.natAbs
    if b = minus then (toNatBelow? (limit + 1) bs).map fun n => Int64.ofInt (-n)
    else (toNatBelow? limit (if b = plus then bs else b :: bs)).map Int64.ofNat

end Kademlia.Decimal
