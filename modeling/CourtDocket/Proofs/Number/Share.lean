/-
# Shares

The part of a whole, as a datum, is the rounded quotient of two rounded counts, held between zero
and one (`share`).  None of the three roundings shows at the ends or in the order:

| of a positive whole | the share is | lemma |
| --- | --- | --- |
| no part | `+0` | `share_of_nonpos` |
| a part | above zero | `share_pos` |
| all of it | `1` | `share_of_le` |
| a larger part | not smaller | `share_mono` |

A share and what it leaves of one are both between zero and one, and their rounded sum is exactly
one although the rounded difference need not be exact (`Binary64.Within.add_one_sub`): from one
half on it is, and below one half it is off by at most `2^-54`, which the sum rounds away.
-/

import CourtDocket.Proofs.Number.Nearest

namespace CourtDocket
namespace Binary64

variable {a b : Binary64} {low high p q : ℚ}

/-! ### Intervals -/

/-- **Whether a datum denotes a number between two others.** -/
structure Within (a : Binary64) (low high : ℚ) : Prop where
  /-- It is finite. -/
  isFinite : a.isFinite = true
  /-- It stands for no less than the lower bound. -/
  low_le : low ≤ a.toRat
  /-- It stands for no more than the upper bound. -/
  le_high : a.toRat ≤ high

/-- A datum that denotes a number within bounds is within them. -/
theorem Denotes.within (h : a.Denotes q) (hlow : low ≤ q) (hhigh : q ≤ high) : a.Within low high :=
  ⟨h.isFinite, hlow.trans_eq h.toRat_eq.symm, h.toRat_eq.trans_le hhigh⟩

/-- A datum within bounds denotes what it stands for. -/
theorem Within.denotes (h : a.Within low high) : a.Denotes a.toRat :=
  denotes_toRat h.isFinite

/-! ### The unit interval -/

/-- What denotes a number is one. -/
theorem Denotes.ne_nan (h : a.Denotes q) : a ≠ nan := by
  rintro rfl
  cases h.isFinite

/-- A negative number is held at zero. -/
theorem Denotes.clampUnit_eq_zero (h : a.Denotes q) (hq : q < 0) : a.clampUnit = zero false := by
  rw [clampUnit, if_neg h.ne_nan, if_pos ((h.lt_iff (denotes_zero false)).2 hq)]

/-- A number between zero and one is left. -/
theorem Denotes.clampUnit_eq_self (h : a.Denotes q) (hlow : 0 ≤ q) (hhigh : q ≤ 1) :
    a.clampUnit = a := by
  have hzero := (h.lt_iff (denotes_zero false)).not.2 hlow.not_gt
  have hone := (denotes_one.lt_iff h).not.2 hhigh.not_gt
  rw [clampUnit, if_neg h.ne_nan, if_neg hzero, if_neg hone]

/-- A number from one on is held at one. -/
theorem Denotes.clampUnit_eq_one (h : a.Denotes q) (hq : 1 ≤ q) : a.clampUnit = one := by
  rcases hq.eq_or_lt with rfl | hlt
  · rw [h.clampUnit_eq_self zero_le_one le_rfl]
    exact h.unique denotes_one one_ne_zero
  · have hzero := (h.lt_iff (denotes_zero false)).not.2 (zero_le_one.trans hq).not_gt
    rw [clampUnit, if_neg h.ne_nan, if_neg hzero, if_pos ((denotes_one.lt_iff h).2 hlt)]

/-- **A number held between zero and one is the nearer end, or itself.** -/
theorem Denotes.clampUnit (h : a.Denotes q) : a.clampUnit.Denotes (max 0 (min q 1)) := by
  rcases lt_or_ge q 0 with hneg | hnonneg
  · rw [h.clampUnit_eq_zero hneg, max_eq_left ((min_le_left q 1).trans hneg.le)]
    exact denotes_zero false
  rcases le_or_gt q 1 with hle | hgt
  · rwa [h.clampUnit_eq_self hnonneg hle, min_eq_left hle, max_eq_right hnonneg]
  · rw [h.clampUnit_eq_one hgt.le, min_eq_right hgt.le, max_eq_right zero_le_one]
    exact denotes_one

/-- Every datum held between zero and one is a number between them, whatever it was. -/
theorem within_clampUnit (a : Binary64) : a.clampUnit.Within 0 1 := by
  match a with
  | nan => exact (denotes_zero false).within le_rfl zero_le_one
  | infinite true => exact (denotes_zero false).within le_rfl zero_le_one
  | infinite false => exact denotes_one.within zero_le_one le_rfl
  | finite negative m e h =>
    have hdenotes := (denotes_toRat (a := finite negative m e h) rfl).clampUnit
    exact hdenotes.within (le_max_left _ _) (max_le zero_le_one (min_le_right _ _))

/-- The range of the format is far above one. -/
theorem abs_lt_pow2_of_mem (hlow : 0 ≤ q) (hhigh : q ≤ 1) : |q| < pow2 1024 := by
  rw [abs_of_nonneg hlow]
  refine hhigh.trans_lt ?_
  have hone : pow2 0 = 1 := by rw [pow2_eq_zpow, zpow_zero]
  rw [← hone]
  exact pow2_lt_pow2 (by decide)

/-- A number times a part of one is between zero and the number. -/
theorem Within.mul (ha : a.Denotes p) (hp : 0 ≤ p) (hb : b.Within 0 1) : (a * b).Within 0 p := by
  have hlow : 0 ≤ nearest (p * b.toRat) := nearest_nonneg (mul_nonneg hp hb.low_le)
  have hhigh : nearest (p * b.toRat) ≤ p :=
    nearest_le ha.nearest_eq (mul_le_of_le_one_right hp hb.le_high)
  refine (ha.mul hb.denotes ?_).within hlow hhigh
  rw [abs_of_nonneg hlow]
  exact hhigh.trans_lt ((le_abs_self p).trans_lt ha.abs_lt)

/-! ### What a part leaves of one -/

/-- The rest of a part is rounded to a part. -/
theorem Within.nearest_one_sub_mem (h : a.Within 0 1) :
    0 ≤ nearest (1 - a.toRat) ∧ nearest (1 - a.toRat) ≤ 1 :=
  ⟨nearest_nonneg (sub_nonneg.2 h.le_high), nearest_le nearest_one (sub_le_self 1 h.low_le)⟩

/-- The rest of a part is its exact difference from one, rounded. -/
theorem Within.denotes_one_sub (h : a.Within 0 1) : (one - a).Denotes (nearest (1 - a.toRat)) := by
  obtain ⟨hlow, hhigh⟩ := h.nearest_one_sub_mem
  exact denotes_one.sub h.denotes (abs_lt_pow2_of_mem hlow hhigh)

/-- What is left of one is a number between zero and one. -/
theorem Within.one_sub (h : a.Within 0 1) : (one - a).Within 0 1 := by
  obtain ⟨hlow, hhigh⟩ := h.nearest_one_sub_mem
  exact h.denotes_one_sub.within hlow hhigh

/-- What is within `2^-54` of one is rounded to one. -/
theorem nearest_eq_one {x : ℚ} (h : |x - 1| ≤ pow2 (-54)) : nearest x = 1 := by
  have hunit : pow2 (-54) = 1 / 18014398509481984 := by norm_num [pow2_eq_zpow]
  have hlow : nearest (18014398509481983 / 18014398509481984) = 1 := by decide +kernel
  have hhigh : nearest (18014398509481985 / 18014398509481984) = 1 := by decide +kernel
  rw [hunit, abs_le] at h
  apply le_antisymm
  · rw [← hhigh]
    exact nearest_mono (by linarith)
  · rw [← hlow]
    exact nearest_mono (by linarith)

/-- A unit that goes at least once into no more than one goes a whole number of times into one. -/
theorem exists_parts_of_one {n e : ℤ} (hpos : 0 < (n : ℚ) * pow2 e)
    (hone : (n : ℚ) * pow2 e ≤ 1) : ∃ parts : ℤ, (parts : ℚ) * pow2 e = 1 := by
  have hn : (1 : ℚ) ≤ n := by
    have hn : (0 : ℚ) < n := pos_of_mul_pos_left hpos (pow2_pos e).le
    exact_mod_cast hn
  have he : e ≤ 0 := by
    by_contra hlarge
    have htwo : pow2 1 ≤ pow2 e := pow2_le_pow2 (by omega)
    rw [show pow2 1 = 2 by norm_num [pow2_eq_zpow]] at htwo
    linarith [le_mul_of_one_le_left (pow2_pos e).le hn]
  obtain ⟨d, hd⟩ := Int.eq_ofNat_of_zero_le (neg_nonneg.2 he)
  refine ⟨2 ^ d, ?_⟩
  push_cast
  rw [← zpow_natCast, ← hd, ← pow2_eq_zpow, ← pow2_add, neg_add_cancel, pow2_eq_zpow, zpow_zero]

/-- What a datum from one half to one leaves of one is exact: it has no more parts than the datum,
of the same unit. -/
theorem Within.nearest_one_sub_of_half_le (h : a.Within 0 1) (hhalf : 1 / 2 ≤ a.toRat) :
    nearest (1 - a.toRat) = 1 - a.toRat := by
  obtain ⟨n, e, hn, he, -, hvalue⟩ := h.denotes.exists_dyadic
  have hunit := pow2_pos e
  have hone := h.le_high
  rw [hvalue] at hhalf hone ⊢
  obtain ⟨parts, hparts⟩ := exists_parts_of_one (by linarith) hone
  have hsub : 1 - (n : ℚ) * pow2 e = ((parts - n : ℤ) : ℚ) * pow2 e := by
    rw [Int.cast_sub, sub_mul, hparts]
  have hnonneg : (0 : ℚ) ≤ ((parts - n : ℤ) : ℚ) :=
    nonneg_of_mul_nonneg_left (by linarith) hunit
  have hle : ((parts - n : ℤ) : ℚ) ≤ n := le_of_mul_le_mul_right (by linarith) hunit
  norm_cast at hnonneg hle
  rw [hsub]
  refine nearest_dyadic ?_ he
  rw [abs_of_nonneg hnonneg]
  exact hle.trans_lt (lt_of_abs_lt hn)

/-- What a datum below one half leaves of one is off by at most `2^-54`. -/
theorem Within.abs_nearest_one_sub_le (h : a.Within 0 1) (hhalf : a.toRat < 1 / 2) :
    |nearest (1 - a.toRat) - (1 - a.toRat)| ≤ pow2 (-54) := by
  rcases h.low_le.eq_or_lt with hzero | hpos
  · rw [← hzero, sub_zero, nearest_one, sub_self, abs_zero]
    exact (pow2_pos _).le
  refine (abs_nearest_sub_le _).trans ?_
  have hleft : 0 < 1 - a.toRat := by linarith
  have hplace : lastPlace (1 - a.toRat) ≤ -53 := by
    have hbinade : ¬0 ≤ log2Floor (1 - a.toRat) := by
      rw [le_log2Floor_iff hleft, pow2_eq_zpow, zpow_zero]
      linarith
    rw [lastPlace]
    omega
  rw [abs_of_pos hleft]
  calc 1 / 2 * pow2 (lastPlace (1 - a.toRat)) ≤ 1 / 2 * pow2 (-53) := by
        linarith [pow2_le_pow2 hplace]
    _ = pow2 (-54) := by norm_num [pow2_eq_zpow]

/-- **A datum and what it leaves of one add up to one.** -/
theorem Within.add_one_sub (h : a.Within 0 1) : a + (one - a) = one := by
  have hsum : nearest (a.toRat + nearest (1 - a.toRat)) = 1 := by
    rcases le_or_gt (1 / 2) a.toRat with hhalf | hhalf
    · rw [h.nearest_one_sub_of_half_le hhalf, add_sub_cancel, nearest_one]
    · refine nearest_eq_one ?_
      have hoff : a.toRat + nearest (1 - a.toRat) - 1 =
          nearest (1 - a.toRat) - (1 - a.toRat) := by ring
      rw [hoff]
      exact h.abs_nearest_one_sub_le hhalf
  have hdenotes := h.denotes.add h.denotes_one_sub (by
    rw [hsum]
    exact abs_lt_pow2_of_mem zero_le_one le_rfl)
  rw [hsum] at hdenotes
  exact hdenotes.unique denotes_one one_ne_zero

end Binary64

/-! ### The part of a whole -/

open Binary64

/-- A count is not positive just when its integer is not. -/
theorem nonpos_iff {n : Int64} : n ≤ 0 ↔ n.toInt ≤ 0 :=
  Int64.le_iff_toInt_le

/-- The part of a whole, held between zero and one. -/
def share (part whole : Int64) : Binary64 :=
  (ofInt part.toInt / ofInt whole.toInt).clampUnit

variable {part other whole : Int64}

/-- A count is rounded within the power of two that bounds all counts. -/
theorem abs_nearest_toInt_le (n : Int64) : |nearest n.toInt| ≤ pow2 63 := by
  refine abs_nearest_le (nearest_pow2 (by decide)) ?_
  have hbound : |n.toInt| ≤ 9223372036854775808 := by
    have hlow := Int64.le_toInt n
    have hhigh := Int64.toInt_lt n
    rw [abs_le]
    omega
  rw [show pow2 63 = (9223372036854775808 : ℤ) by norm_num [pow2_eq_zpow]]
  exact_mod_cast hbound

/-- A count is in the range of the format. -/
theorem denotes_ofInt_toInt (n : Int64) : (ofInt n.toInt).Denotes (nearest n.toInt) :=
  denotes_ofInt ((abs_nearest_toInt_le n).trans_lt (pow2_lt_pow2 (by decide)))

/-- A positive count is rounded to one at least. -/
theorem one_le_nearest_toInt (h : 0 < whole.toInt) : 1 ≤ nearest whole.toInt :=
  le_nearest nearest_one (by exact_mod_cast h)

/-- The quotient of two counts, the second positive, is in the range of the format. -/
theorem denotes_quotient (part : Int64) (h : 0 < whole.toInt) :
    (ofInt part.toInt / ofInt whole.toInt).Denotes
      (nearest (nearest part.toInt / nearest whole.toInt)) := by
  have hwhole := one_le_nearest_toInt h
  refine (denotes_ofInt_toInt part).div (denotes_ofInt_toInt whole) (by linarith) ?_
  have hquotient : |nearest part.toInt / nearest whole.toInt| ≤ pow2 63 := by
    rw [abs_div, abs_of_pos (zero_lt_one.trans_le hwhole)]
    exact (div_le_self (abs_nonneg _) hwhole).trans (abs_nearest_toInt_le part)
  exact (abs_nearest_le (nearest_pow2 (by decide)) hquotient).trans_lt (pow2_lt_pow2 (by decide))

/-- The part of a whole is between zero and one. -/
theorem within_share (part whole : Int64) : (share part whole).Within 0 1 :=
  within_clampUnit _

/-- A greater part of the same whole is no smaller. -/
theorem share_mono (hwhole : 0 < whole.toInt) (h : part.toInt ≤ other.toInt) :
    (share part whole).toRat ≤ (share other whole).toRat := by
  have hpositive := zero_lt_one.trans_le (one_le_nearest_toInt hwhole)
  have hquotient : nearest (nearest part.toInt / nearest whole.toInt) ≤
      nearest (nearest other.toInt / nearest whole.toInt) :=
    nearest_mono (div_le_div_of_nonneg_right (nearest_mono (by exact_mod_cast h)) hpositive.le)
  rw [share, share, (denotes_quotient part hwhole).clampUnit.toRat_eq,
    (denotes_quotient other hwhole).clampUnit.toRat_eq]
  exact max_le_max le_rfl (min_le_min_right 1 hquotient)

/-- A positive count is a datum without a sign. -/
theorem ofInt_eq_finite (h : 0 < whole.toInt) : ∃ (m : ℕ) (e : ℤ) (hcanonical : Canonical m e),
    ofInt whole.toInt = finite false m e hcanonical ∧ m ≠ 0 := by
  have hcast : (0 : ℚ) < whole.toInt := by exact_mod_cast h
  have hfits : nearest whole.toInt < pow2 1024 :=
    (le_abs_self _).trans_lt ((abs_nearest_toInt_le whole).trans_lt (pow2_lt_pow2 (by decide)))
  obtain ⟨m, e, hcanonical, hround, hvalue⟩ := denotes_roundMagnitude hcast hfits false
  refine ⟨m, e, hcanonical, ?_, ?_⟩
  · rw [ofInt, Binary64.round, if_neg hcast.not_gt, if_pos hcast, hround]
  · rintro rfl
    have := one_le_nearest_toInt h
    rw [Nat.cast_zero, zero_mul] at hvalue
    linarith

/-- The quotient of a number from one on and a count is a number above zero. -/
theorem pow2_le_nearest_div {x : ℚ} (hx : 1 ≤ x) (h : 0 < whole.toInt) :
    pow2 (-63) ≤ nearest (x / nearest whole.toInt) := by
  have hpositive := zero_lt_one.trans_le (one_le_nearest_toInt h)
  refine le_nearest (nearest_pow2 (by decide)) ?_
  rw [le_div_iff₀ hpositive]
  calc pow2 (-63) * nearest whole.toInt ≤ pow2 (-63) * pow2 63 :=
        mul_le_mul_of_nonneg_left ((le_abs_self _).trans (abs_nearest_toInt_le whole))
          (pow2_pos _).le
    _ = 1 := by rw [← pow2_add, pow2_eq_zpow, neg_add_cancel, zpow_zero]
    _ ≤ x := hx

/-- **No part is `+0` of the whole.** -/
theorem share_of_nonpos (hwhole : 0 < whole.toInt) (h : part.toInt ≤ 0) :
    share part whole = zero false := by
  rcases h.lt_or_eq with hneg | hzero
  · have hpart : nearest part.toInt ≤ -1 := by
      refine nearest_le (by rw [nearest_neg, nearest_one]) ?_
      exact_mod_cast Int.le_sub_one_of_lt hneg
    have hquotient := pow2_le_nearest_div (le_neg_of_le_neg hpart) hwhole
    rw [neg_div, nearest_neg] at hquotient
    exact (denotes_quotient part hwhole).clampUnit_eq_zero (by linarith [pow2_pos (-63)])
  · obtain ⟨m, e, hcanonical, hround, hm⟩ := ofInt_eq_finite hwhole
    have hquotient : zero false / finite false m e hcanonical = zero false := by
      show (if m = 0 then _ else Binary64.round (false != false)
        ((zero false).toRat / (finite false m e hcanonical).toRat)) = zero false
      rw [if_neg hm, (denotes_zero false).toRat_eq, zero_div]
      rfl
    rw [share, hzero, hround, show ofInt 0 = zero false from rfl, hquotient]
    exact (denotes_zero false).clampUnit_eq_self le_rfl zero_le_one

/-- **A part is above zero**, however large the whole is. -/
theorem share_pos (hwhole : 0 < whole.toInt) (h : 0 < part.toInt) :
    0 < (share part whole).toRat := by
  have hquotient := pow2_le_nearest_div (one_le_nearest_toInt h) hwhole
  rw [share, (denotes_quotient part hwhole).clampUnit.toRat_eq]
  exact lt_max_of_lt_right (lt_min ((pow2_pos _).trans_le hquotient) zero_lt_one)

/-- **All of the whole is one.** -/
theorem share_of_le (hwhole : 0 < whole.toInt) (h : whole.toInt ≤ part.toInt) :
    share part whole = one := by
  have hpositive := zero_lt_one.trans_le (one_le_nearest_toInt hwhole)
  refine (denotes_quotient part hwhole).clampUnit_eq_one (le_nearest nearest_one ?_)
  rw [le_div_iff₀ hpositive, one_mul]
  exact nearest_mono (by exact_mod_cast h)

end CourtDocket
