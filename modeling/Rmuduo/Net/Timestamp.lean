/-
Times (`net/Timestamp.h`).

A `Timestamp` is its `microSecondsSinceEpoch()`, an `int64_t`. Signed overflow is not defined in
C++; here sums and differences wrap, as the machine computes them.

* `toInt_addTime` — a sum is exact when it stays in range.
* `toInt_sub_le` — a difference is not too large unless it underflows.
-/

import Mathlib.Algebra.Ring.Int.Defs
import Mathlib.Algebra.Ring.Nat
import Mathlib.Order.Defs.LinearOrder

namespace Rmuduo.Net

/-- Times are ordered by their number of microseconds. -/
instance instLinearOrderInt64 : LinearOrder Int64 where
  le_refl _ := Int64.le_iff_toInt_le.mpr (Int.le_refl _)
  le_trans _ _ _ h h' := Int64.le_iff_toInt_le.mpr
    (Int.le_trans (Int64.le_iff_toInt_le.mp h) (Int64.le_iff_toInt_le.mp h'))
  lt_iff_le_not_ge _ _ := by
    rw [Int64.lt_iff_toInt_lt, Int64.le_iff_toInt_le, Int64.le_iff_toInt_le]
    exact Int.lt_iff_le_and_not_ge
  le_antisymm _ _ h h' := Int64.toInt_inj.mp
    (Int.le_antisymm (Int64.le_iff_toInt_le.mp h) (Int64.le_iff_toInt_le.mp h'))
  le_total a b := (Int.le_total a.toInt b.toInt).imp Int64.le_iff_toInt_le.mpr
    Int64.le_iff_toInt_le.mpr
  toDecidableLE := inferInstance
  toDecidableEq := inferInstance
  toDecidableLT := inferInstance

abbrev Timestamp := Int64

namespace Timestamp

def kMicroSecondsPerSecond : Int64 := 1000 * 1000

/-- `invalid()`. -/
def invalid : Timestamp := 0

/-- `valid()`. -/
def valid (t : Timestamp) : Bool := 0 < t

/-- A number of microseconds that a `Timestamp` can have. -/
def InRange (n : Int) : Prop := -2 ^ 63 ≤ n ∧ n < 2 ^ 63

theorem valid_iff {t : Timestamp} : t.valid = true ↔ 0 < t.toInt := by
  rw [valid, decide_eq_true_iff, Int64.lt_iff_toInt_lt, Int64.toInt_zero]

theorem bmod_of_inRange {n : Int} (h : InRange n) : n.bmod (2 ^ 64) = n :=
  Int.bmod_eq_of_le h.1 h.2

/-- A difference that does not underflow is not too large. -/
theorem toInt_sub_le {t t' : Timestamp} (h : -2 ^ 63 ≤ t.toInt - t'.toInt) :
    (t - t').toInt ≤ t.toInt - t'.toInt := by
  have hbound := (t - t').toInt_lt
  by_cases hrange : t.toInt - t'.toInt < 2 ^ 63
  · have hexact : (t - t').toInt = t.toInt - t'.toInt := by
      rw [Int64.toInt_sub]
      exact bmod_of_inRange ⟨h, hrange⟩
    exact Int.le_of_eq hexact
  · omega

end Timestamp

/-- `addTime`; `delta` is what the cast of the seconds to microseconds gives. -/
def addTime (timestamp : Timestamp) (delta : Int64) : Timestamp := timestamp + delta

theorem toInt_addTime {t : Timestamp} {delta : Int64}
    (h : Timestamp.InRange (t.toInt + delta.toInt)) :
    (addTime t delta).toInt = t.toInt + delta.toInt := by
  rw [addTime, Int64.toInt_add]
  exact Timestamp.bmod_of_inRange h

end Rmuduo.Net
