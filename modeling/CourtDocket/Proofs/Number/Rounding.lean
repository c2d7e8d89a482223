/-
# Rounding to the nearest datum

The reals whose nearest datum is `m · 2^e` reach from `gapBelow m e` units below it to half a unit
above it, a unit being `2^e`; the ends belong to them when `m` is even
(`Decimal.readsBackAs_iff`).  Every one of them is rounded to that datum
(`Binary64.roundMagnitude_of_readsBackAs`).

The exponent that rounding works with is that of the binade of the number (`log2Floor_eq_log`).
It is the one of the datum, except just below a power of two: there the number lies in the binade
below, its mantissa is rounded up to a full one, and `Binary64.pack` moves it on.
-/

import CourtDocket.Proofs.Number.Shortest
import Mathlib.Data.Int.Log

namespace CourtDocket

/-- A power of ten is one of the library. -/
theorem pow10_eq_zpow (e : ℤ) : pow10 e = (10 : ℚ) ^ e := by
  rw [pow10]
  split_ifs with h
  · obtain ⟨n, rfl⟩ := Int.eq_ofNat_of_zero_le h
    simp
  · obtain ⟨n, hn⟩ := Int.eq_ofNat_of_zero_le (show 0 ≤ -e by omega)
    obtain rfl : e = -n := by omega
    simp

/-- A power of ten is positive. -/
theorem pow10_pos (e : ℤ) : 0 < pow10 e := by
  rw [pow10_eq_zpow]
  positivity

/-- Powers of two multiply as their exponents add. -/
theorem pow2_add (d e : ℤ) : pow2 (d + e) = pow2 d * pow2 e := by
  simp only [pow2_eq_zpow]
  exact zpow_add₀ (by norm_num) d e

/-- Powers of ten multiply as their exponents add. -/
theorem pow10_add (d e : ℤ) : pow10 (d + e) = pow10 d * pow10 e := by
  simp only [pow10_eq_zpow]
  exact zpow_add₀ (by norm_num) d e

/-- The binade of a number is the only one that it lies in. -/
theorem log_eq_of_pow2 {x : ℚ} {k : ℤ} (hlow : pow2 k ≤ x) (hhigh : x < pow2 (k + 1)) :
    Int.log 2 x = k := by
  have hx : 0 < x := (pow2_pos k).trans_le hlow
  rw [pow2_eq_zpow] at hlow hhigh
  have hle : k ≤ Int.log 2 x := (Int.zpow_le_iff_le_log (by decide) hx).1 hlow
  have hlt : Int.log 2 x < k + 1 := (Int.lt_zpow_iff_log_lt (by decide) hx).1 hhigh
  omega

/-- A positive rational is the quotient of its numerator and denominator, as whole numbers. -/
theorem eq_natAbs_num_div_den {x : ℚ} (hx : 0 < x) : x = (x.num.natAbs : ℚ) / x.den := by
  have hnum : ((x.num.natAbs : ℤ) : ℚ) = x.num := by
    rw [Int.natAbs_of_nonneg (Rat.num_pos.2 hx).le]
  rw [← Int.cast_natCast, hnum, Rat.num_div_den]

/-- A whole number lies in the binade of its highest bit. -/
theorem pow2_log2_le {n : ℕ} (hn : n ≠ 0) : pow2 n.log2 ≤ n ∧ (n : ℚ) < pow2 (n.log2 + 1) := by
  rw [pow2_eq_zpow, pow2_eq_zpow]
  constructor
  · exact_mod_cast Nat.log2_self_le hn
  · exact_mod_cast Nat.lt_log2_self

/-- **The binade that is told from the bits of numerator and denominator is the right one.** -/
theorem log2Floor_eq_log {x : ℚ} (hx : 0 < x) : log2Floor x = Int.log 2 x := by
  have hnum : x.num.natAbs ≠ 0 := by
    have := Rat.num_pos.2 hx
    omega
  obtain ⟨hnumLow, hnumHigh⟩ := pow2_log2_le hnum
  obtain ⟨hdenLow, hdenHigh⟩ := pow2_log2_le x.den_nz
  have hvalue := eq_natAbs_num_div_den hx
  have hden : (0 : ℚ) < x.den := by exact_mod_cast x.den_pos
  simp only [log2Floor]
  generalize (x.num.natAbs.log2 : ℤ) = a at *
  generalize (x.den.log2 : ℤ) = b at *
  -- the quotient lies in one of two binades
  have hlow : pow2 (a - b - 1) < x := by
    rw [hvalue, lt_div_iff₀ hden]
    calc pow2 (a - b - 1) * x.den < pow2 (a - b - 1) * pow2 (b + 1) := by
          gcongr
          exact pow2_pos _
      _ = pow2 a := by rw [← pow2_add]; congr 1; ring
      _ ≤ _ := hnumLow
  have hhigh : x < pow2 (a - b + 1) := by
    rw [hvalue, div_lt_iff₀ hden]
    calc (x.num.natAbs : ℚ) < pow2 (a + 1) := hnumHigh
      _ = pow2 (a - b + 1) * pow2 b := by rw [← pow2_add]; congr 1; ring
      _ ≤ _ := by
          gcongr
          exact (pow2_pos _).le
  split_ifs with hbinade
  · exact (log_eq_of_pow2 hbinade hhigh).symm
  · refine (log_eq_of_pow2 hlow.le ?_).symm
    rw [sub_add_cancel]
    exact not_le.1 hbinade

/-- The binary logarithm is at least an exponent just when the number is at least its power. -/
theorem le_log2Floor_iff {x : ℚ} (hx : 0 < x) {k : ℤ} : k ≤ log2Floor x ↔ pow2 k ≤ x := by
  rw [log2Floor_eq_log hx, pow2_eq_zpow]
  exact (Int.zpow_le_iff_le_log (by decide) hx).symm

/-- The floor of what is in a unit interval is its lower end. -/
theorem floor_eq_of_mem {y : ℚ} {n : ℤ} (hlow : (n : ℚ) ≤ y) (hhigh : y < n + 1) :
    y.floor = n := by
  show ⌊y⌋ = n
  exact Int.floor_eq_iff.2 ⟨hlow, hhigh⟩

/-- A number is rounded to the integer that it is at most a half away from, to an even one only
if it is just a half. -/
theorem roundHalfEven_eq {y : ℚ} {n : ℤ} (hlow : (n : ℚ) - 1 / 2 ≤ y) (hhigh : y ≤ n + 1 / 2)
    (htie : n % 2 = 0 ∨ (n : ℚ) - 1 / 2 < y ∧ y < n + 1 / 2) : roundHalfEven y = n := by
  simp only [roundHalfEven]
  rcases lt_or_ge y n with hlt | hge
  · have hfloor : y.floor = n - 1 := by
      refine floor_eq_of_mem ?_ ?_ <;> push_cast <;> linarith
    rw [hfloor]
    push_cast
    split_ifs with hbelow habove heven
    · linarith
    · ring
    · rcases htie with htie | ⟨htie, -⟩
      · omega
      · linarith
    · ring
  · have hfloor : y.floor = n := floor_eq_of_mem hge (by linarith)
    rw [hfloor]
    split_ifs with hbelow habove heven
    · rfl
    · linarith
    · rfl
    · rcases htie with htie | ⟨-, htie⟩
      · exact absurd htie heven
      · linarith

namespace Decimal

variable {m : ℕ} {e : ℤ} {x : ℚ}

/-- How far the reals with the nearest datum `m · 2^e` reach below it, in units of `2^e`. -/
def gapBelow (m : ℕ) (e : ℤ) : ℚ :=
  if m = 4503599627370496 ∧ e ≠ -1074 then 1 / 4 else 1 / 2

/-- The gap below a datum is at most the one above it, half a unit. -/
theorem gapBelow_le_half (m : ℕ) (e : ℤ) : gapBelow m e ≤ 1 / 2 := by
  rw [gapBelow]
  split_ifs <;> norm_num

/-- **Which reals have a datum as the nearest one, in units of its last place.** -/
theorem readsBackAs_iff : readsBackAs m e x = true ↔
    (m : ℚ) - gapBelow m e ≤ x / pow2 e ∧ x / pow2 e ≤ m + 1 / 2 ∧
      (m % 2 = 0 ∨ (m : ℚ) - gapBelow m e < x / pow2 e ∧ x / pow2 e < m + 1 / 2) := by
  have hunit := pow2_pos e
  have hhalf : pow2 (e - 1) = 1 / 2 * pow2 e := by
    rw [sub_eq_neg_add, pow2_add]
    norm_num [pow2_eq_zpow]
  have hquarter : pow2 (e - 2) = 1 / 4 * pow2 e := by
    rw [sub_eq_neg_add, pow2_add]
    norm_num [pow2_eq_zpow]
  have hbelow : (if m = 4503599627370496 ∧ e ≠ -1074 then pow2 (e - 2) else pow2 (e - 1)) =
      gapBelow m e * pow2 e := by
    rw [gapBelow, hhalf, hquarter]
    split_ifs <;> rfl
  simp only [readsBackAs]
  rw [hbelow, hhalf, ← sub_mul, ← add_mul, le_div_iff₀ hunit, div_le_iff₀ hunit,
    lt_div_iff₀ hunit, div_lt_iff₀ hunit]
  split_ifs with heven
  · simp only [Bool.and_eq_true, decide_eq_true_eq, heven, true_or, and_true]
  · simp only [Bool.and_eq_true, decide_eq_true_eq, heven, false_or]
    exact ⟨fun h => ⟨h.1.le, h.2.le, h⟩, fun h => h.2.2⟩

end Decimal

namespace Binary64

open Decimal

variable {m : ℕ} {e : ℤ} {x y : ℚ}

/-- A canonical mantissa is packed as it stands. -/
theorem pack_of_canonical (negative : Bool) (h : Canonical m e) :
    pack negative m e = finite negative m e h := by
  rw [pack, dif_pos h]

/-- A full mantissa moves into the next binade. -/
theorem pack_full (negative : Bool) (h : Canonical 4503599627370496 e) :
    pack negative 9007199254740992 (e - 1) = finite negative 4503599627370496 e h := by
  have hfull : ¬Canonical 9007199254740992 (e - 1) := fun hfull => absurd hfull.1 (by decide)
  have hnext : Canonical (9007199254740992 / 2) (e - 1 + 1) := by
    rwa [sub_add_cancel]
  rw [pack, dif_neg hfull, dif_pos hnext]
  congr 1
  exact sub_add_cancel e 1

/-- The binade of a number is that of its mantissa, moved by the exponent. -/
theorem add_le_log2Floor_iff (hy : 0 < y) {k : ℤ} :
    k + e ≤ log2Floor (y * pow2 e) ↔ pow2 k ≤ y := by
  rw [le_log2Floor_iff (mul_pos hy (pow2_pos e)), pow2_add, mul_le_mul_iff_left₀ (pow2_pos e)]

/-- A number whose mantissa has all its bits, or whose exponent is the lowest one, is rounded in
units of the last place. -/
theorem roundMagnitude_of_exponent (negative : Bool) (h : Canonical m e) (hy : 0 < y)
    (hbottom : e = -1074 ∨ pow2 52 ≤ y) (htop : y < pow2 53) (hround : roundHalfEven y = m) :
    roundMagnitude negative (y * pow2 e) = finite negative m e h := by
  have hexponent : max (log2Floor (y * pow2 e) - 52) (-1074) = e := by
    have hlowest := h.2.1
    have hlt : log2Floor (y * pow2 e) < 53 + e :=
      not_le.1 fun hle => htop.not_ge ((add_le_log2Floor_iff hy).1 hle)
    rcases hbottom with rfl | hnormal
    · omega
    · have hle : 52 + e ≤ log2Floor (y * pow2 e) := (add_le_log2Floor_iff hy).2 hnormal
      omega
  simp only [roundMagnitude]
  rw [hexponent, mul_div_cancel_right₀ y (pow2_pos e).ne', hround, Int.toNat_natCast,
    pack_of_canonical negative h]

/-- Just below a power of two the units are half as large, and a number that is rounded up gets a
full mantissa there. -/
theorem roundMagnitude_below_power (negative : Bool) (h : Canonical 4503599627370496 e)
    (he : e ≠ -1074) (hlow : 4503599627370496 - 1 / 4 ≤ y) (hhigh : y < 4503599627370496) :
    roundMagnitude negative (y * pow2 e) = finite negative 4503599627370496 e h := by
  have hy : 0 < y := by linarith
  have hexponent : max (log2Floor (y * pow2 e) - 52) (-1074) = e - 1 := by
    have hlowest := h.2.1
    have hle : 51 + e ≤ log2Floor (y * pow2 e) := by
      refine (add_le_log2Floor_iff hy).2 ?_
      norm_num [pow2_eq_zpow]
      linarith
    have hlt : log2Floor (y * pow2 e) < 52 + e := by
      refine not_le.1 fun hle => ?_
      have hpower : pow2 52 ≤ y := (add_le_log2Floor_iff hy).1 hle
      norm_num [pow2_eq_zpow] at hpower
      linarith
    omega
  have hscaled : y * pow2 e / pow2 (e - 1) = 2 * y := by
    have hunit : pow2 e = 2 * pow2 (e - 1) := by
      rw [← add_sub_cancel 1 e, pow2_add, add_sub_cancel, pow2_eq_zpow 1, zpow_one]
    have hhalf := pow2_pos (e - 1)
    rw [hunit]
    field_simp
  have hround : roundHalfEven (2 * y) = 9007199254740992 := by
    refine roundHalfEven_eq ?_ ?_ (Or.inl (by decide)) <;> push_cast <;> linarith
  simp only [roundMagnitude]
  rw [hexponent, hscaled, hround]
  exact pack_full negative h

/-- **A real is rounded to the datum that it has as the nearest one.** -/
theorem roundMagnitude_of_readsBackAs (negative : Bool) (hm : m ≠ 0) (h : Canonical m e)
    (hx : readsBackAs m e x = true) : roundMagnitude negative x = finite negative m e h := by
  obtain ⟨hlow, hhigh, htie⟩ := readsBackAs_iff.1 hx
  obtain ⟨y, rfl⟩ : ∃ y, x = y * pow2 e :=
    ⟨x / pow2 e, (div_mul_cancel₀ x (pow2_pos e).ne').symm⟩
  rw [mul_div_cancel_right₀ y (pow2_pos e).ne'] at hlow hhigh htie
  have hgap := gapBelow_le_half m e
  have hone : (1 : ℚ) ≤ m := by exact_mod_cast Nat.one_le_iff_ne_zero.2 hm
  have hbits : (m : ℚ) ≤ 9007199254740991 := by exact_mod_cast Nat.le_of_lt_succ h.1
  -- just below a power of two the exponent of the number is one less than that of the datum
  by_cases hbottom : e = -1074 ∨ pow2 52 ≤ y
  · refine roundMagnitude_of_exponent negative h (by linarith) hbottom ?_ ?_
    · norm_num [pow2_eq_zpow]
      linarith
    · refine roundHalfEven_eq (by push_cast; linarith) (by push_cast; linarith) ?_
      rcases htie with heven | ⟨hlow', hhigh'⟩
      · left
        omega
      · right
        push_cast
        constructor <;> linarith
  · obtain ⟨hlowest, hbelow⟩ := not_or.1 hbottom
    norm_num [pow2_eq_zpow] at hbelow
    obtain rfl : m = 4503599627370496 := by
      have hleast : 4503599627370496 ≤ m := h.2.2.2.resolve_right hlowest
      have hmost : (m : ℚ) < 4503599627370497 := by linarith
      have hmost' : m < 4503599627370497 := by exact_mod_cast hmost
      omega
    rw [gapBelow, if_pos ⟨rfl, hlowest⟩] at hlow
    exact roundMagnitude_below_power negative h hlowest (by exact_mod_cast hlow) hbelow

end Binary64
end CourtDocket
