/-
# Rounding keeps the order

What `Binary64.round` yields stands for the number nearest to the one that is rounded, on a grid
whose unit is the last place of that number (`lastPlace`), as long as this nearest number is not
too large for the format (`Binary64.denotes_round`).  As a function of numbers, rounding
(`nearest`)

| does | lemma |
| --- | --- |
| not change what has a mantissa of 53 bits | `nearest_dyadic` |
| keep the order | `nearest_mono` |
| commute with the sign | `nearest_neg` |
| move a number by at most half a unit | `abs_nearest_sub_le` |

So a bound that is a datum holds of what is rounded as soon as it holds of the exact number
(`nearest_le`, `le_nearest`): no more is needed to bound the result of a chain of operations, each
of which is told by the number that it denotes (`Binary64.Denotes`).
-/

import CourtDocket.Proofs.Number.ReadBack

namespace CourtDocket

variable {x y : ℚ}

/-! ### The nearest integer -/

/-- The nearest integer is at most a half away, and even if it is just a half. -/
theorem roundHalfEven_mem (x : ℚ) :
    (roundHalfEven x : ℚ) - 1 / 2 ≤ x ∧ x ≤ roundHalfEven x + 1 / 2 ∧
      (roundHalfEven x % 2 = 0 ∨
        (roundHalfEven x : ℚ) - 1 / 2 < x ∧ x < roundHalfEven x + 1 / 2) := by
  have hlow : (x.floor : ℚ) ≤ x := Int.floor_le x
  have hhigh : x < x.floor + 1 := Int.lt_floor_add_one x
  simp only [roundHalfEven]
  split_ifs with hbelow habove heven
  · refine ⟨by linarith, by linarith, .inr ⟨by linarith, by linarith⟩⟩
  · push_cast
    refine ⟨by linarith, by linarith, .inr ⟨by linarith, by linarith⟩⟩
  · refine ⟨by linarith, by linarith, .inl heven⟩
  · push_cast
    refine ⟨by linarith, by linarith, .inl (by omega)⟩

/-- A whole number is not moved. -/
theorem roundHalfEven_intCast (n : ℤ) : roundHalfEven n = n :=
  roundHalfEven_eq (by linarith) (by linarith) (.inr ⟨by linarith, by linarith⟩)

/-- Rounding to a whole number does not see the sign: the even one of two neighbours is even on both
sides of zero. -/
theorem roundHalfEven_neg (x : ℚ) : roundHalfEven (-x) = -roundHalfEven x := by
  obtain ⟨hlow, hhigh, htie⟩ := roundHalfEven_mem x
  refine roundHalfEven_eq (by push_cast; linarith) (by push_cast; linarith) ?_
  rcases htie with heven | ⟨hlow', hhigh'⟩
  · left
    omega
  · right
    push_cast
    constructor <;> linarith

/-- Rounding to a whole number keeps the order. -/
theorem roundHalfEven_mono (h : x ≤ y) : roundHalfEven x ≤ roundHalfEven y := by
  by_contra hlt
  have hstep : (roundHalfEven y : ℚ) + 1 ≤ roundHalfEven x := by
    exact_mod_cast Int.add_one_le_of_lt (not_le.1 hlt)
  -- both numbers are halfway between the two integers
  have hx := (roundHalfEven_mem x).1
  have hy := (roundHalfEven_mem y).2.1
  obtain rfl : x = y := by linarith
  exact hlt le_rfl

/-- What is at most a whole number is rounded to at most that number. -/
theorem roundHalfEven_le {n : ℤ} (h : x ≤ n) : roundHalfEven x ≤ n :=
  (roundHalfEven_mono h).trans_eq (roundHalfEven_intCast n)

/-- What is at least a whole number is rounded to at least that number. -/
theorem le_roundHalfEven {n : ℤ} (h : n ≤ x) : n ≤ roundHalfEven x :=
  (roundHalfEven_intCast n).symm.trans_le (roundHalfEven_mono h)

/-! ### The grid of a number -/

/-- The least mantissa of 53 bits. -/
theorem pow2_52 : pow2 52 = (4503599627370496 : ℤ) := by
  norm_num [pow2_eq_zpow]

/-- The first number that 53 bits do not hold. -/
theorem pow2_53 : pow2 53 = (9007199254740992 : ℤ) := by
  norm_num [pow2_eq_zpow]

/-- The place of the last bit that is kept of a positive number. -/
def lastPlace (x : ℚ) : ℤ :=
  max (log2Floor x - 52) (-1074)

/-- The mantissa of a number, in units of the last place of its magnitude: the nearest integer,
the even one of two equally near. -/
def nearestMantissa (x : ℚ) : ℤ :=
  roundHalfEven (x / pow2 (lastPlace |x|))

/-- The number nearest to a number on its grid. -/
def nearest (x : ℚ) : ℚ :=
  nearestMantissa x * pow2 (lastPlace |x|)

/-- No number has a last place below that of the least data. -/
theorem lowest_le_lastPlace (x : ℚ) : -1074 ≤ lastPlace x :=
  le_max_right _ _

/-- A number has at most 53 bits up to its last place. -/
theorem lt_pow2_lastPlace (hx : 0 < x) : x < pow2 (53 + lastPlace x) := by
  refine not_le.1 fun hle => ?_
  have hbinade := (le_log2Floor_iff hx).2 hle
  have hplace : log2Floor x - 52 ≤ lastPlace x := le_max_left _ _
  omega

/-- It has 53 bits, unless its last place is the lowest one. -/
theorem pow2_lastPlace_le (hx : 0 < x) (hplace : lastPlace x ≠ -1074) :
    pow2 (52 + lastPlace x) ≤ x := by
  refine (le_log2Floor_iff hx).1 ?_
  rw [lastPlace] at hplace ⊢
  omega

/-- A greater number has no lower last place. -/
theorem lastPlace_mono (hx : 0 < x) (h : x ≤ y) : lastPlace x ≤ lastPlace y := by
  have hbinade : log2Floor x ≤ log2Floor y :=
    (le_log2Floor_iff (hx.trans_le h)).2 (((le_log2Floor_iff hx).1 le_rfl).trans h)
  rw [lastPlace, lastPlace]
  omega

/-- The mantissa of a number that is not negative is not negative. -/
theorem nearestMantissa_nonneg (hx : 0 ≤ x) : 0 ≤ nearestMantissa x := by
  refine le_roundHalfEven ?_
  rw [Int.cast_zero]
  exact div_nonneg hx (pow2_pos _).le

/-- The mantissa of a positive number has 53 bits, or is the first number beyond them. -/
theorem nearestMantissa_le (hx : 0 < x) : nearestMantissa x ≤ 9007199254740992 := by
  refine roundHalfEven_le ?_
  rw [abs_of_pos hx, div_le_iff₀ (pow2_pos _), ← pow2_53, ← pow2_add]
  exact (lt_pow2_lastPlace hx).le

/-- The mantissa of a positive number has its 53rd bit, unless the last place is the lowest one. -/
theorem le_nearestMantissa (hx : 0 < x) (hplace : lastPlace x ≠ -1074) :
    4503599627370496 ≤ nearestMantissa x := by
  refine le_roundHalfEven ?_
  rw [abs_of_pos hx, le_div_iff₀ (pow2_pos _), ← pow2_52, ← pow2_add]
  exact pow2_lastPlace_le hx hplace

/-! ### The nearest number -/

/-- What is whole on its grid is not moved. -/
theorem nearest_eq_self {n : ℤ} (h : x = n * pow2 (lastPlace |x|)) : nearest x = x := by
  have hwhole : x / pow2 (lastPlace |x|) = n := by
    rw [div_eq_iff (pow2_pos _).ne', ← h]
  rw [nearest, nearestMantissa, hwhole, roundHalfEven_intCast, ← h]

/-- Zero is not moved. -/
theorem nearest_zero : nearest 0 = 0 :=
  nearest_eq_self (n := 0) (by rw [Int.cast_zero, zero_mul])

/-- Rounding does not see the sign. -/
theorem nearest_neg (x : ℚ) : nearest (-x) = -nearest x := by
  rw [nearest, nearest, nearestMantissa, nearestMantissa, abs_neg, neg_div, roundHalfEven_neg,
    Int.cast_neg, neg_mul]

/-- **What has a mantissa of at most 53 bits is not moved.** -/
theorem nearest_dyadic {n k : ℤ} (hn : |n| < 9007199254740992) (hk : -1074 ≤ k) :
    nearest (n * pow2 k) = n * pow2 k := by
  have hunit := pow2_pos k
  rcases eq_or_ne n 0 with rfl | hzero
  · rw [Int.cast_zero, zero_mul, nearest_zero]
  have habs : |(n : ℚ) * pow2 k| = (|n| : ℤ) * pow2 k := by
    rw [abs_mul, abs_of_pos hunit, Int.cast_abs]
  have hpos : 0 < |(n : ℚ) * pow2 k| :=
    abs_pos.2 (mul_ne_zero (by exact_mod_cast hzero) hunit.ne')
  have hplace : lastPlace |n * pow2 k| ≤ k := by
    by_contra hbeyond
    have hlow := pow2_lastPlace_le hpos (by omega)
    have hhigh : |(n : ℚ) * pow2 k| < pow2 (53 + k) := by
      rw [habs, pow2_add, pow2_53]
      exact mul_lt_mul_of_pos_right (by exact_mod_cast hn) hunit
    exact (hlow.trans_lt hhigh).not_ge (pow2_le_pow2 (by omega))
  obtain ⟨d, hd⟩ := Int.eq_ofNat_of_zero_le (sub_nonneg.2 hplace)
  have hsplit : pow2 k = 2 ^ d * pow2 (lastPlace |n * pow2 k|) := by
    rw [← zpow_natCast, ← pow2_eq_zpow, ← pow2_add, ← hd, sub_add_cancel]
  refine nearest_eq_self (n := n * 2 ^ d) ?_
  push_cast
  rw [mul_assoc, ← hsplit]

/-- An integer of at most 53 bits is not moved. -/
theorem nearest_intCast {n : ℤ} (hn : |n| < 9007199254740992) : nearest n = n := by
  have hdyadic := nearest_dyadic hn (show -1074 ≤ (0 : ℤ) by decide)
  rwa [pow2_eq_zpow, zpow_zero, mul_one] at hdyadic

/-- One is not moved. -/
theorem nearest_one : nearest 1 = 1 := by
  exact_mod_cast nearest_intCast (n := 1) (by decide)

/-- A power of two that is no smaller than the least data is not moved. -/
theorem nearest_pow2 {k : ℤ} (hk : -1074 ≤ k) : nearest (pow2 k) = pow2 k := by
  have hdyadic := nearest_dyadic (n := 1) (by decide) hk
  rwa [Int.cast_one, one_mul] at hdyadic

/-- What is not negative is not rounded below zero. -/
theorem nearest_nonneg (hx : 0 ≤ x) : 0 ≤ nearest x :=
  mul_nonneg (by exact_mod_cast nearestMantissa_nonneg hx) (pow2_pos _).le

/-- What is not positive is not rounded above zero. -/
theorem nearest_nonpos (hx : x ≤ 0) : nearest x ≤ 0 := by
  have hneg := nearest_nonneg (neg_nonneg.2 hx)
  rw [nearest_neg] at hneg
  linarith

/-- Rounding keeps the order of positive numbers: of two with one grid, since rounding to integers
does, and else because a power of two lies between them. -/
theorem nearest_mono_of_pos (hx : 0 < x) (h : x ≤ y) : nearest x ≤ nearest y := by
  have hy := hx.trans_le h
  have hunit := pow2_pos (lastPlace x)
  rw [nearest, nearest, abs_of_pos hx, abs_of_pos hy]
  rcases (lastPlace_mono hx h).eq_or_lt with heq | hlt
  · have hmantissa : nearestMantissa x ≤ nearestMantissa y := by
      rw [nearestMantissa, nearestMantissa, abs_of_pos hx, abs_of_pos hy, ← heq]
      exact roundHalfEven_mono (div_le_div_of_nonneg_right h hunit.le)
    rw [← heq]
    exact mul_le_mul_of_nonneg_right (by exact_mod_cast hmantissa) hunit.le
  · have hlowest := lowest_le_lastPlace x
    have hbelow : (nearestMantissa x : ℚ) ≤ pow2 53 := by
      rw [pow2_53]
      exact_mod_cast nearestMantissa_le hx
    have habove : pow2 52 ≤ nearestMantissa y := by
      rw [pow2_52]
      exact_mod_cast le_nearestMantissa hy (by omega)
    calc (nearestMantissa x : ℚ) * pow2 (lastPlace x) ≤ pow2 53 * pow2 (lastPlace x) :=
          mul_le_mul_of_nonneg_right hbelow hunit.le
      _ = pow2 (53 + lastPlace x) := (pow2_add _ _).symm
      _ ≤ pow2 (52 + lastPlace y) := pow2_le_pow2 (by omega)
      _ = pow2 52 * pow2 (lastPlace y) := pow2_add _ _
      _ ≤ nearestMantissa y * pow2 (lastPlace y) :=
          mul_le_mul_of_nonneg_right habove (pow2_pos _).le

/-- **Rounding keeps the order.** -/
theorem nearest_mono (h : x ≤ y) : nearest x ≤ nearest y := by
  rcases lt_or_ge 0 x with hx | hx
  · exact nearest_mono_of_pos hx h
  rcases lt_or_ge y 0 with hy | hy
  · have hneg := nearest_mono_of_pos (neg_pos.2 hy) (neg_le_neg h)
    rw [nearest_neg, nearest_neg] at hneg
    linarith
  · exact (nearest_nonpos hx).trans (nearest_nonneg hy)

/-- A bound that is not moved itself stays a bound. -/
theorem nearest_le {c : ℚ} (hc : nearest c = c) (h : x ≤ c) : nearest x ≤ c :=
  (nearest_mono h).trans_eq hc

/-- A lower bound that is not moved itself stays a bound. -/
theorem le_nearest {c : ℚ} (hc : nearest c = c) (h : c ≤ x) : c ≤ nearest x :=
  hc.symm.trans_le (nearest_mono h)

/-- A bound of the magnitude that is not moved itself stays a bound. -/
theorem abs_nearest_le {c : ℚ} (hc : nearest c = c) (h : |x| ≤ c) : |nearest x| ≤ c := by
  rw [abs_le] at h ⊢
  exact ⟨le_nearest (by rw [nearest_neg, hc]) h.1, nearest_le hc h.2⟩

/-- **Rounding moves a number by at most half a unit of its last place.** -/
theorem abs_nearest_sub_le (x : ℚ) : |nearest x - x| ≤ 1 / 2 * pow2 (lastPlace |x|) := by
  have hunit := pow2_pos (lastPlace |x|)
  obtain ⟨hlow, hhigh, -⟩ := roundHalfEven_mem (x / pow2 (lastPlace |x|))
  rw [le_div_iff₀ hunit] at hlow
  rw [div_le_iff₀ hunit] at hhigh
  rw [nearest, nearestMantissa, abs_le]
  constructor <;> linarith

namespace Binary64

/-! ### What data denote -/

/-- **Whether a datum denotes a number.** -/
structure Denotes (a : Binary64) (q : ℚ) : Prop where
  /-- It is finite. -/
  isFinite : a.isFinite = true
  /-- It stands for the number. -/
  toRat_eq : a.toRat = q

variable {a b : Binary64} {p q : ℚ}

/-- A finite datum denotes the number it stands for. -/
theorem denotes_toRat (h : a.isFinite = true) : a.Denotes a.toRat :=
  ⟨h, rfl⟩

/-- Zero denotes zero with either sign. -/
theorem denotes_zero (negative : Bool) : (zero negative).Denotes 0 := by
  refine ⟨rfl, ?_⟩
  simp [zero, toRat]

/-- One denotes one. -/
theorem denotes_one : one.Denotes 1 := by
  refine ⟨rfl, ?_⟩
  norm_num [one, toRat, pow2_eq_zpow]

/-- A finite datum denotes its mantissa in units of its exponent, with its sign. -/
theorem denotes_finite {m : ℕ} {e : ℤ} (negative : Bool) (h : Canonical m e) :
    (finite negative m e h).Denotes ((if negative then -(m : ℤ) else m : ℤ) * pow2 e) := by
  refine ⟨rfl, ?_⟩
  cases negative <;> simp [toRat]

/-- A datum denotes at most one number. -/
theorem Denotes.eq (hp : a.Denotes p) (hq : a.Denotes q) : p = q :=
  hp.toRat_eq.symm.trans hq.toRat_eq

/-- A finite datum denotes an integer of fewer than 54 bits times a power of two. -/
theorem Denotes.exists_dyadic (h : a.Denotes q) : ∃ n e : ℤ, |n| < 9007199254740992 ∧
    -1074 ≤ e ∧ e ≤ 971 ∧ q = n * pow2 e := by
  match a with
  | finite negative m e hcanonical =>
    have hm : (m : ℤ) < 9007199254740992 := by exact_mod_cast hcanonical.1
    refine ⟨_, e, ?_, hcanonical.2.1, hcanonical.2.2.1, h.eq (denotes_finite negative hcanonical)⟩
    cases negative <;> simpa using hm
  | nan => cases h.isFinite
  | infinite _ => cases h.isFinite

/-- What a datum denotes is not moved. -/
theorem Denotes.nearest_eq (h : a.Denotes q) : nearest q = q := by
  obtain ⟨n, e, hn, he, -, rfl⟩ := h.exists_dyadic
  exact nearest_dyadic hn he

/-- What a datum denotes is in the range of the format. -/
theorem Denotes.abs_lt (h : a.Denotes q) : |q| < pow2 1024 := by
  obtain ⟨n, e, hn, -, he, rfl⟩ := h.exists_dyadic
  have hmantissa : |(n : ℚ)| < pow2 53 := by
    rw [pow2_53]
    exact_mod_cast hn
  rw [abs_mul, abs_of_pos (pow2_pos e)]
  calc |(n : ℚ)| * pow2 e < pow2 53 * pow2 e := mul_lt_mul_of_pos_right hmantissa (pow2_pos e)
    _ = pow2 (53 + e) := (pow2_add 53 e).symm
    _ ≤ pow2 1024 := pow2_le_pow2 (by omega)

/-! ### Rounding -/

/-- **A positive number in the range of the format is rounded to a datum of the nearest one.** -/
theorem denotes_roundMagnitude {x : ℚ} (hx : 0 < x) (hfits : nearest x < pow2 1024)
    (negative : Bool) : ∃ (m : ℕ) (e : ℤ) (h : Canonical m e),
      roundMagnitude negative x = finite negative m e h ∧ (m : ℚ) * pow2 e = nearest x := by
  obtain ⟨n, hn⟩ := Int.eq_ofNat_of_zero_le (nearestMantissa_nonneg hx.le)
  have hround : (roundHalfEven (x / pow2 (max (log2Floor x - 52) (-1074)))).toNat = n := by
    rw [nearestMantissa, abs_of_pos hx] at hn
    rw [← lastPlace, hn, Int.toNat_natCast]
  have hvalue : nearest x = n * pow2 (lastPlace x) := by
    rw [nearest, hn, abs_of_pos hx, Int.cast_natCast]
  have htop : n ≤ 9007199254740992 := by
    have := nearestMantissa_le hx
    omega
  have hlowest := lowest_le_lastPlace x
  -- a power of two in units of the last place is in the range of the format if it is not above
  have hrange : ∀ k : ℤ, pow2 k ≤ n → k + lastPlace x < 1024 := by
    intro k hk
    refine not_le.1 fun hle => hfits.not_ge ?_
    calc pow2 1024 ≤ pow2 (k + lastPlace x) := pow2_le_pow2 hle
      _ = pow2 k * pow2 (lastPlace x) := pow2_add _ _
      _ ≤ n * pow2 (lastPlace x) := mul_le_mul_of_nonneg_right hk (pow2_pos _).le
      _ = nearest x := hvalue.symm
  rw [roundMagnitude, hround, ← lastPlace]
  rcases htop.eq_or_lt with rfl | hlt
  · have hplace := hrange 53 (by rw [pow2_53]; norm_num)
    have hcanonical : Canonical 4503599627370496 (lastPlace x + 1) :=
      ⟨by decide, by omega, by omega, .inl le_rfl⟩
    have hfull := pack_full negative hcanonical
    rw [add_sub_cancel_right] at hfull
    refine ⟨_, _, hcanonical, hfull, ?_⟩
    rw [hvalue, pow2_add, pow2_eq_zpow 1]
    push_cast
    ring
  · have hnormal : 4503599627370496 ≤ n ∨ lastPlace x = -1074 := by
      refine or_iff_not_imp_right.2 fun hplace => ?_
      have := le_nearestMantissa hx hplace
      omega
    have hplace : lastPlace x ≤ 971 := by
      rcases hnormal with hleast | hlowest'
      · have := hrange 52 (by rw [pow2_52]; exact_mod_cast hleast)
        omega
      · omega
    have hcanonical : Canonical n (lastPlace x) := ⟨hlt, hlowest, hplace, hnormal⟩
    exact ⟨_, _, hcanonical, pack_of_canonical negative hcanonical, hvalue.symm⟩

/-- The magnitude is rounded like the number. -/
theorem abs_nearest (x : ℚ) : |nearest x| = nearest |x| := by
  rcases le_or_gt 0 x with hx | hx
  · rw [abs_of_nonneg hx, abs_of_nonneg (nearest_nonneg hx)]
  · rw [abs_of_neg hx, abs_of_nonpos (nearest_nonpos hx.le), nearest_neg]

/-- **A number in the range of the format is rounded to a datum of the nearest one.** -/
theorem denotes_round (negativeZero : Bool) (hfits : |nearest x| < pow2 1024) :
    (round negativeZero x).Denotes (nearest x) := by
  rw [abs_nearest] at hfits
  rw [round]
  split_ifs with hneg hpos
  · rw [abs_of_neg hneg] at hfits
    obtain ⟨m, e, h, hround, hvalue⟩ := denotes_roundMagnitude (neg_pos.2 hneg) hfits true
    rw [hround]
    refine ⟨rfl, ?_⟩
    rw [nearest_neg] at hvalue
    simp [toRat, hvalue]
  · rw [abs_of_pos hpos] at hfits
    obtain ⟨m, e, h, hround, hvalue⟩ := denotes_roundMagnitude hpos hfits false
    rw [hround]
    refine ⟨rfl, ?_⟩
    simp [toRat, hvalue]
  · obtain rfl : x = 0 := le_antisymm (not_lt.1 hpos) (not_lt.1 hneg)
    rw [nearest_zero]
    exact denotes_zero negativeZero

/-- **What a datum denotes is rounded to the datum**, zero apart, which has two data. -/
theorem Denotes.round_eq (h : a.Denotes q) (hq : q ≠ 0) (negativeZero : Bool) :
    round negativeZero q = a := by
  match a with
  | finite negative m e hcanonical =>
    obtain rfl := h.eq (denotes_finite negative hcanonical)
    have hm : m ≠ 0 := by
      rintro rfl
      simp at hq
    have hmagnitude : 0 < (m : ℚ) * pow2 e :=
      mul_pos (by exact_mod_cast Nat.pos_of_ne_zero hm) (pow2_pos e)
    have hnear : Decimal.readsBackAs m e (m * pow2 e) = true := by
      have hgap : 0 < Decimal.gapBelow m e := by
        rw [Decimal.gapBelow]
        split_ifs <;> norm_num
      apply Decimal.readsBackAs_of_lt <;> rw [mul_div_cancel_right₀ _ (pow2_pos e).ne'] <;> linarith
    have hround := fun negative => roundMagnitude_of_readsBackAs negative hm hcanonical hnear
    cases negative with
    | true =>
      have hneg : ((-(m : ℤ) : ℤ) : ℚ) * pow2 e = -(m * pow2 e) := by push_cast; ring
      simp only [if_true]
      rw [hneg, round, if_pos (neg_neg_of_pos hmagnitude), neg_neg, hround]
    | false =>
      simp only [Bool.false_eq_true, if_false, Int.cast_natCast]
      rw [round, if_neg hmagnitude.not_gt, if_pos hmagnitude, hround]
  | nan => cases h.isFinite
  | infinite _ => cases h.isFinite

/-- Two data of one number are equal, zero apart. -/
theorem Denotes.unique (ha : a.Denotes q) (hb : b.Denotes q) (hq : q ≠ 0) : a = b :=
  (ha.round_eq hq false).symm.trans (hb.round_eq hq false)

/-! ### The operations -/

/-- An integer is rounded to the nearest number, unless that is beyond the range. -/
theorem denotes_ofInt {i : ℤ} (hfits : |nearest i| < pow2 1024) :
    (ofInt i).Denotes (nearest i) :=
  denotes_round false hfits

/-- The opposite datum denotes the opposite number. -/
theorem Denotes.neg (h : a.Denotes q) : (-a).Denotes (-q) := by
  match a with
  | finite negative m e hcanonical =>
    refine ⟨rfl, ?_⟩
    rw [← h.toRat_eq]
    show (finite (!negative) m e hcanonical).toRat = -(finite negative m e hcanonical).toRat
    cases negative <;> simp [toRat]
  | nan => cases h.isFinite
  | infinite _ => cases h.isFinite

/-- A sum is the exact one, rounded to the nearest number, unless that is beyond the range. -/
theorem Denotes.add (ha : a.Denotes p) (hb : b.Denotes q)
    (hfits : |nearest (p + q)| < pow2 1024) : (a + b).Denotes (nearest (p + q)) := by
  match a, b with
  | finite s m e h, finite t n f k =>
    obtain rfl := ha.toRat_eq
    obtain rfl := hb.toRat_eq
    exact denotes_round (s && t) hfits
  | nan, _ => cases ha.isFinite
  | infinite _, _ => cases ha.isFinite
  | finite .., nan => cases hb.isFinite
  | finite .., infinite _ => cases hb.isFinite

/-- A difference is the exact one, rounded to the nearest number, unless that is beyond the
range. -/
theorem Denotes.sub (ha : a.Denotes p) (hb : b.Denotes q)
    (hfits : |nearest (p - q)| < pow2 1024) : (a - b).Denotes (nearest (p - q)) := by
  rw [sub_eq_add_neg] at hfits ⊢
  exact ha.add hb.neg hfits

/-- A product is the exact one, rounded to the nearest number, unless that is beyond the range. -/
theorem Denotes.mul (ha : a.Denotes p) (hb : b.Denotes q)
    (hfits : |nearest (p * q)| < pow2 1024) : (a * b).Denotes (nearest (p * q)) := by
  match a, b with
  | finite s m e h, finite t n f k =>
    obtain rfl := ha.toRat_eq
    obtain rfl := hb.toRat_eq
    exact denotes_round (s != t) hfits
  | nan, _ => cases ha.isFinite
  | infinite _, _ => cases ha.isFinite
  | finite .., nan => cases hb.isFinite
  | finite .., infinite _ => cases hb.isFinite

/-- A quotient is the exact one, rounded to the nearest number, unless that is beyond the range. -/
theorem Denotes.div (ha : a.Denotes p) (hb : b.Denotes q) (hq : q ≠ 0)
    (hfits : |nearest (p / q)| < pow2 1024) : (a / b).Denotes (nearest (p / q)) := by
  match a, b with
  | finite s m e h, finite t n f k =>
    obtain rfl := ha.toRat_eq
    obtain rfl := hb.toRat_eq
    have hn : n ≠ 0 := by
      rintro rfl
      simp [toRat] at hq
    show (if n = 0 then _ else round (s != t) _).Denotes _
    rw [if_neg hn]
    exact denotes_round (s != t) hfits
  | nan, _ => cases ha.isFinite
  | infinite _, _ => cases ha.isFinite
  | finite .., nan => cases hb.isFinite
  | finite .., infinite _ => cases hb.isFinite

/-- Data are compared as the numbers that they denote. -/
theorem Denotes.lt_iff (ha : a.Denotes p) (hb : b.Denotes q) : a.lt b = true ↔ p < q := by
  match a, b with
  | finite .., finite .. =>
    rw [← ha.toRat_eq, ← hb.toRat_eq]
    exact decide_eq_true_iff
  | nan, _ => cases ha.isFinite
  | infinite _, _ => cases ha.isFinite
  | finite .., nan => cases hb.isFinite
  | finite .., infinite _ => cases hb.isFinite

end Binary64
end CourtDocket
