/-
# The shortest decimal of a magnitude has a digit

Zero is not among the reals that have a positive datum as the nearest one, since the datum is at
least twice as large as the part of the interval below it.  So the decimal that is found has digits
other than zero (`Decimal.digits_shortest_ne_zero`), and its first one is not zero.
-/

import CourtDocket.Number.Shortest
import Mathlib.Algebra.Order.Field.Power
import Mathlib.Algebra.Order.Floor.Ring
import Mathlib.Data.Rat.Floor
import Mathlib.Tactic.Linarith
import Mathlib.Tactic.Positivity

namespace CourtDocket

/-- A power of two is one of the library. -/
theorem pow2_eq_zpow (e : ℤ) : pow2 e = (2 : ℚ) ^ e := by
  rw [pow2]
  split_ifs with h
  · obtain ⟨n, rfl⟩ := Int.eq_ofNat_of_zero_le h
    simp
  · obtain ⟨n, hn⟩ := Int.eq_ofNat_of_zero_le (show 0 ≤ -e by omega)
    obtain rfl : e = -n := by omega
    simp

/-- A power of two is positive. -/
theorem pow2_pos (e : ℤ) : 0 < pow2 e := by
  rw [pow2_eq_zpow]
  positivity

/-- A greater exponent makes a greater power of two. -/
theorem pow2_lt_pow2 {d e : ℤ} (h : d < e) : pow2 d < pow2 e := by
  rw [pow2_eq_zpow, pow2_eq_zpow]
  exact zpow_lt_zpow_right₀ (by norm_num) h

/-- Rounding does not go below the floor. -/
theorem floor_le_roundHalfEven (x : ℚ) : x.floor ≤ roundHalfEven x := by
  simp only [roundHalfEven]
  split_ifs <;> omega

namespace Decimal

/-- Zero has no positive datum as the nearest one. -/
theorem readsBackAs_zero {m : ℕ} (hm : m ≠ 0) (e : ℤ) : readsBackAs m e 0 = false := by
  have hvalue : pow2 e ≤ (m : ℚ) * pow2 e := by
    have hone : (1 : ℚ) ≤ m := by exact_mod_cast Nat.one_le_iff_ne_zero.2 hm
    nlinarith [pow2_pos e]
  have hhalf := pow2_lt_pow2 (show e - 1 < e by omega)
  have hquarter := pow2_lt_pow2 (show e - 2 < e by omega)
  unfold readsBackAs
  split_ifs <;> simp only [Bool.and_eq_false_iff, decide_eq_false_iff_not] <;> left <;> linarith

/-- Digits without their zeros at the end are not zero, unless they were. -/
theorem digits_stripZeros_ne_zero {d : Decimal} (hd : d.digits ≠ 0) :
    d.stripZeros.digits ≠ 0 := by
  fun_induction stripZeros d with
  | case1 d h ih => exact ih (by dsimp only; omega)
  | case2 d h => exact hd

/-- The nearest decimal of a datum that is not zero has digits. -/
theorem digits_ne_zero_of_nearestWith {m : ℕ} (hm : m ≠ 0) {e : ℤ} {n : ℕ} {d : Decimal}
    (h : nearestWith m e n = some d) : d.digits ≠ 0 := by
  simp only [nearestWith] at h
  generalize (m : ℚ) * pow2 e / pow10 (leadingPlace ((m : ℚ) * pow2 e) - n) = scaled at h
  generalize leadingPlace ((m : ℚ) * pow2 e) - n = k at h
  -- the lower neighbour is not zero when it reads back
  have hdown : readsBackAs m e ((scaled.floor.toNat : ℚ) * pow10 k) = true →
      scaled.floor.toNat ≠ 0 := by
    intro hreads hzero
    rw [hzero, Nat.cast_zero, zero_mul, readsBackAs_zero hm] at hreads
    cases hreads
  split_ifs at h with hboth hlower hupper
  · obtain rfl := Option.some.inj h
    have hfloor := hdown (Bool.and_eq_true_iff.1 hboth).1
    have hround := floor_le_roundHalfEven scaled
    show (roundHalfEven scaled).toNat ≠ 0
    omega
  · obtain rfl := Option.some.inj h
    exact hdown hlower
  · obtain rfl := Option.some.inj h
    exact Nat.succ_ne_zero _

/-- **The shortest decimal of a positive magnitude is not zero.** -/
theorem digits_shortest_ne_zero {m : ℕ} (hm : m ≠ 0) (e : ℤ) : (shortest m e).digits ≠ 0 := by
  rw [shortest]
  refine digits_stripZeros_ne_zero ?_
  cases h : (List.range 17).findSome? (nearestWith m e) with
  | none => exact hm
  | some d =>
    obtain ⟨n, -, hn⟩ := List.exists_of_findSome?_eq_some h
    exact digits_ne_zero_of_nearestWith hm hn

end Decimal
end CourtDocket
