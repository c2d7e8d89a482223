/-
# The shortest decimal reads back

Seventeen digits are always enough: the grid of `nearestWith m e 16` has a spacing of at most
`v / 10^16`, where `v = m · 2^e` is below `2^53` units, and so one of the two neighbours of `v` is
nearer than half a unit; a quarter is enough below a power of two, where `v` is `2^52` units
(`nearestWith_sixteen`).  So the search of `shortest` ends with a decimal in the interval of the
datum (`readsBackAs_shortest`), and reading any decimal of the same value yields the datum again
(`Binary64.ofDecimal_of_readsBackAs`).
-/

import CourtDocket.Proofs.Number.Decimal
import CourtDocket.Proofs.Number.Rounding

namespace CourtDocket

/-- A power of ten is at most a power of two when its exponent is a little below `log 2 / log 10`
times the other one: `59 / 196` approximates the quotient from below, `28 / 93` from above. -/
theorem pow10_le_pow2 {k l : ℤ} (h : 0 ≤ l ∧ 196 * k ≤ 59 * l ∨ l ≤ 0 ∧ 93 * k ≤ 28 * l) :
    pow10 k ≤ pow2 l := by
  rw [pow10_eq_zpow, pow2_eq_zpow]
  rcases h with ⟨hl, hk⟩ | ⟨hl, hk⟩
  · obtain ⟨n, rfl⟩ := Int.eq_ofNat_of_zero_le hl
    refine (pow_le_pow_iff_left₀ (by positivity) (by positivity) (show 196 ≠ 0 by decide)).1 ?_
    calc ((10 : ℚ) ^ k) ^ 196 = 10 ^ (k * 196) := by rw [zpow_mul]; norm_cast
      _ ≤ 10 ^ (59 * (n : ℤ)) := zpow_le_zpow_right₀ (by norm_num) (by omega)
      _ = (10 ^ 59) ^ n := by rw [zpow_mul]; norm_cast
      _ ≤ (2 ^ 196) ^ n := by gcongr; norm_num
      _ = _ := by rw [zpow_natCast, ← pow_mul, ← pow_mul, Nat.mul_comm]
  · obtain ⟨n, hn⟩ := Int.eq_ofNat_of_zero_le (show 0 ≤ -l by omega)
    obtain rfl : l = -n := by omega
    refine (pow_le_pow_iff_left₀ (by positivity) (by positivity) (show 93 ≠ 0 by decide)).1 ?_
    calc ((10 : ℚ) ^ k) ^ 93 = 10 ^ (k * 93) := by rw [zpow_mul]; norm_cast
      _ ≤ 10 ^ (28 * -(n : ℤ)) := zpow_le_zpow_right₀ (by norm_num) (by omega)
      _ = ((10 ^ 28) ^ n)⁻¹ := by rw [mul_neg, zpow_neg, zpow_mul]; norm_cast
      _ ≤ ((2 ^ 93) ^ n)⁻¹ := by gcongr; norm_num
      _ = _ := by rw [zpow_neg, zpow_natCast, inv_pow, ← pow_mul, ← pow_mul, Nat.mul_comm]

/-- Three bits fit into a decimal digit. -/
theorem pow2_le_pow10 {k l : ℤ} (hk : 0 ≤ k) (hl : l ≤ 3 * k) : pow2 l ≤ pow10 k := by
  rw [pow10_eq_zpow, pow2_eq_zpow]
  obtain ⟨n, rfl⟩ := Int.eq_ofNat_of_zero_le hk
  calc (2 : ℚ) ^ l ≤ 2 ^ (3 * (n : ℤ)) := zpow_le_zpow_right₀ (by norm_num) hl
    _ = (2 ^ 3) ^ n := by rw [zpow_mul]; norm_cast
    _ ≤ 10 ^ n := by gcongr; norm_num
    _ = _ := (zpow_natCast 10 n).symm

/-- An exponent that is no less makes a power of two that is no less. -/
theorem pow2_le_pow2 {d e : ℤ} (h : d ≤ e) : pow2 d ≤ pow2 e := by
  rw [pow2_eq_zpow, pow2_eq_zpow]
  exact zpow_le_zpow_right₀ (by norm_num) h

/-- An exponent that is no less makes a power of ten that is no less. -/
theorem pow10_le_pow10 {d e : ℤ} (h : d ≤ e) : pow10 d ≤ pow10 e := by
  rw [pow10_eq_zpow, pow10_eq_zpow]
  exact zpow_le_zpow_right₀ (by norm_num) h

/-- Rounding gives one of the two neighbours. -/
theorem roundHalfEven_eq_floor_or (x : ℚ) :
    roundHalfEven x = x.floor ∨ roundHalfEven x = x.floor + 1 := by
  simp only [roundHalfEven]
  split_ifs <;> simp

namespace Decimal

variable {m : ℕ} {e : ℤ}

/-- Digits without their zeros at the end have the same value. -/
theorem toRat_stripZeros (d : Decimal) : d.stripZeros.toRat = d.toRat := by
  fun_induction stripZeros d with
  | case1 d h ih =>
    have hdigits : (d.digits : ℚ) = (d.digits / 10 : ℕ) * 10 := by
      exact_mod_cast (Nat.div_mul_cancel (Nat.dvd_of_mod_eq_zero h.2)).symm
    rw [ih]
    simp only [toRat]
    rw [hdigits, pow10_add, show pow10 1 = 10 by norm_num [pow10_eq_zpow]]
    ring
  | case2 d h => rfl

/-- The first place is not above the number, for every number of the range of the format. -/
theorem pow10_leadingPlace_le {x : ℚ} (hx : 0 < x) (hlow : -20000 ≤ log2Floor x)
    (hhigh : log2Floor x ≤ 20000) : pow10 (leadingPlace x) ≤ x := by
  have hbinade : pow2 (log2Floor x) ≤ x := (le_log2Floor_iff hx).1 le_rfl
  simp only [leadingPlace]
  split_ifs with hbelow habove
  · refine (pow10_le_pow2 ?_).trans hbinade
    omega
  · exact habove
  · exact not_lt.1 hbelow

/-- What is found on a grid reads back. -/
theorem readsBackAs_of_nearestWith {n : ℕ} {d : Decimal} (h : nearestWith m e n = some d) :
    readsBackAs m e d.toRat = true := by
  simp only [nearestWith] at h
  have hscaled : 0 ≤ (m : ℚ) * pow2 e / pow10 (leadingPlace ((m : ℚ) * pow2 e) - n) := by
    have := pow2_pos e
    have := pow10_pos (leadingPlace ((m : ℚ) * pow2 e) - n)
    positivity
  generalize (m : ℚ) * pow2 e / pow10 (leadingPlace ((m : ℚ) * pow2 e) - n) = scaled at h hscaled
  generalize leadingPlace ((m : ℚ) * pow2 e) - n = k at h
  have hfloor : 0 ≤ scaled.floor := Rat.le_floor_iff.2 hscaled
  split_ifs at h with hboth hlower hupper
  · obtain ⟨hdown, hup⟩ := Bool.and_eq_true_iff.1 hboth
    obtain rfl := Option.some.inj h
    rcases roundHalfEven_eq_floor_or scaled with hround | hround
    · rw [toRat, hround]
      exact hdown
    · rw [toRat, hround, Int.toNat_add hfloor (by decide)]
      exact hup
  · obtain rfl := Option.some.inj h
    exact hlower
  · obtain rfl := Option.some.inj h
    exact hupper

/-- A real that is near enough to a datum has it as the nearest one. -/
theorem readsBackAs_of_lt {x : ℚ} (hlow : (m : ℚ) - gapBelow m e < x / pow2 e)
    (hhigh : x / pow2 e < m + 1 / 2) : readsBackAs m e x = true :=
  readsBackAs_iff.2 ⟨hlow.le, hhigh.le, Or.inr ⟨hlow, hhigh⟩⟩

/-- The magnitude of a datum lies in the range of the format. -/
theorem log2Floor_datum_mem (hm : m ≠ 0) (h : Canonical m e) :
    -1074 ≤ log2Floor (m * pow2 e) ∧ log2Floor (m * pow2 e) ≤ 1023 := by
  have hone : (1 : ℚ) ≤ m := by exact_mod_cast Nat.one_le_iff_ne_zero.2 hm
  have hpos : (0 : ℚ) < m := by linarith
  have hlow : 0 + e ≤ log2Floor (m * pow2 e) := by
    refine (Binary64.add_le_log2Floor_iff hpos).2 ?_
    rw [pow2_eq_zpow, zpow_zero]
    exact hone
  have hhigh : log2Floor (m * pow2 e) < 53 + e := by
    refine not_le.1 fun hle => ?_
    have hover : pow2 53 ≤ m := (Binary64.add_le_log2Floor_iff hpos).1 hle
    rw [pow2_eq_zpow] at hover
    norm_num at hover
    have := h.1
    omega
  have hleast := h.2.1
  have hmost := h.2.2.1
  omega

/-- The grid of seventeen digits is so narrow that half its spacing is less than the gap on either
side of the datum, all in units of its last place. -/
theorem half_spacing_lt {g : ℚ} (hm : m < 9007199254740992) (hg : g * 10 ^ 16 ≤ m) :
    g / 2 < gapBelow m e ∧ g / 2 < 1 / 2 := by
  have hbits : (m : ℚ) ≤ 9007199254740991 := by exact_mod_cast Nat.le_of_lt_succ hm
  have hhalf : g / 2 < 1 / 2 := by
    norm_num at hg
    linarith
  refine ⟨?_, hhalf⟩
  rw [gapBelow]
  split_ifs with hpower
  · rw [hpower.1] at hg
    norm_num at hg
    linarith
  · exact hhalf

/-- On a grid that narrow, whose spacing is `g` units, the nearer one of the two neighbours of the
datum reads back. -/
theorem readsBackAs_neighbour {g : ℚ} {q : ℕ} (hm : m < 9007199254740992) (hpos : 0 < g)
    (hg : g * 10 ^ 16 ≤ m) (hq : ((m : ℚ) / g).floor = q) :
    readsBackAs m e (q * (g * pow2 e)) = true ∨
      readsBackAs m e ((q + 1 : ℕ) * (g * pow2 e)) = true := by
  obtain ⟨hgap, hhalf⟩ := half_spacing_lt (e := e) hm hg
  have hdown : (q : ℚ) * g ≤ m := by
    rw [← le_div_iff₀ hpos]
    exact Rat.le_floor_iff.1 hq.ge
  have hup : (m : ℚ) < (q + 1) * g := by
    rw [← div_lt_iff₀ hpos]
    have hlt : (m : ℚ) / g - 1 < ((m : ℚ) / g).floor := Rat.lt_floor
    rw [hq, Int.cast_natCast] at hlt
    linarith
  have hvalue : ∀ n : ℕ, (n : ℚ) * (g * pow2 e) / pow2 e = n * g := by
    intro n
    rw [← mul_assoc, mul_div_cancel_right₀ _ (pow2_pos e).ne']
  rcases le_or_gt ((m : ℚ) - q * g) (g / 2) with hnear | hfar
  · left
    apply readsBackAs_of_lt <;> rw [hvalue] <;> linarith
  · right
    apply readsBackAs_of_lt <;> rw [hvalue] <;> push_cast <;> linarith

/-- **Seventeen digits are always enough.** -/
theorem exists_nearestWith (hm : m ≠ 0) (h : Canonical m e) :
    ∃ d, nearestWith m e 16 = some d := by
  have hone : (1 : ℚ) ≤ m := by exact_mod_cast Nat.one_le_iff_ne_zero.2 hm
  have hunit := pow2_pos e
  have hplace : pow10 (leadingPlace (m * pow2 e)) ≤ m * pow2 e := by
    obtain ⟨hlow, hhigh⟩ := log2Floor_datum_mem hm h
    exact pow10_leadingPlace_le (by positivity) (by omega) (by omega)
  simp only [nearestWith]
  generalize hk : leadingPlace (m * pow2 e) - ((16 : ℕ) : ℤ) = k
  have hspacing := pow10_pos k
  have hscaled : 0 ≤ (m : ℚ) * pow2 e / pow10 k := by positivity
  -- the spacing of the grid in units of the last place
  obtain ⟨g, hg⟩ : ∃ g, pow10 k = g * pow2 e :=
    ⟨pow10 k / pow2 e, (div_mul_cancel₀ _ hunit.ne').symm⟩
  have hgpos : 0 < g := by
    rw [hg] at hspacing
    exact pos_of_mul_pos_left hspacing hunit.le
  have hgsmall : g * 10 ^ 16 ≤ m := by
    have hshift : pow10 (leadingPlace (m * pow2 e)) = g * 10 ^ 16 * pow2 e := by
      rw [show leadingPlace (m * pow2 e) = k + 16 by omega, pow10_add, hg, pow10_eq_zpow 16]
      norm_num
      ring
    rw [hshift] at hplace
    exact le_of_mul_le_mul_right hplace hunit
  rw [hg, mul_div_mul_right _ _ hunit.ne'] at hscaled ⊢
  have hfloor : 0 ≤ ((m : ℚ) / g).floor := Rat.le_floor_iff.2 hscaled
  obtain ⟨q, hq⟩ := Int.eq_ofNat_of_zero_le hfloor
  have hnear := readsBackAs_neighbour (e := e) h.1 hgpos hgsmall hq
  rw [hq, Int.toNat_natCast]
  split_ifs with hboth hlower hupper
  · exact ⟨_, rfl⟩
  · exact ⟨_, rfl⟩
  · exact ⟨_, rfl⟩
  · exact absurd hnear (not_or.2 ⟨hlower, hupper⟩)

/-- **The shortest decimal of a datum reads back as the datum.** -/
theorem readsBackAs_shortest (hm : m ≠ 0) (h : Canonical m e) :
    readsBackAs m e (shortest m e).toRat = true := by
  obtain ⟨d, hd⟩ := exists_nearestWith hm h
  rw [shortest, toRat_stripZeros]
  cases hfound : (List.range 17).findSome? (nearestWith m e) with
  | none =>
    have hnone := List.findSome?_eq_none_iff.1 hfound 16 (by decide)
    rw [hd] at hnone
    cases hnone
  | some d' =>
    obtain ⟨n, -, hn⟩ := List.exists_of_findSome?_eq_some hfound
    exact readsBackAs_of_nearestWith hn

end Decimal

namespace Number

open FloatLayout

/-- The number of digits tells between which powers of ten a number lies. -/
theorem pow10_length_decimalDigits {n : ℕ} (hn : n ≠ 0) :
    pow10 ((decimalDigits n).length - 1) ≤ n ∧ (n : ℚ) < pow10 (decimalDigits n).length := by
  have hlength := List.length_pos_iff.2 (decimalDigits_ne_nil n)
  have hlow : 10 ^ ((decimalDigits n).length - 1) ≤ n := by
    by_contra hlt
    rcases Nat.eq_zero_or_pos ((decimalDigits n).length - 1) with hone | hmore
    · rw [hone] at hlt
      omega
    · have hshort := Nat.toDigits_length 10 n _ hmore (not_le.1 hlt)
      rw [← decimalDigits] at hshort
      omega
  have hhigh := ofDigits_lt fun c hc => isDigit_of_mem_decimalDigits (n := n) hc
  rw [ofDigits_decimalDigits] at hhigh
  rw [pow10_eq_zpow, pow10_eq_zpow]
  constructor
  · rw [show ((decimalDigits n).length : ℤ) - 1 = ((decimalDigits n).length - 1 : ℕ) by omega]
    exact_mod_cast hlow
  · exact_mod_cast hhigh

end Number

namespace Binary64

open Decimal

variable {m : ℕ} {e : ℤ}

/-- A real with a positive datum as the nearest one is far inside the range of powers of ten that
are formed. -/
theorem mem_range_of_readsBackAs {x : ℚ} (hm : m ≠ 0) (h : Canonical m e)
    (hx : readsBackAs m e x = true) : pow10 (-400) < x ∧ x < pow10 400 := by
  obtain ⟨hlow, hhigh, -⟩ := readsBackAs_iff.1 hx
  have hunit := pow2_pos e
  have hone : (1 : ℚ) ≤ m := by exact_mod_cast Nat.one_le_iff_ne_zero.2 hm
  have hbits : (m : ℚ) ≤ 9007199254740991 := by exact_mod_cast Nat.le_of_lt_succ h.1
  have hgap := gapBelow_le_half m e
  rw [div_le_iff₀ hunit] at hhigh
  have hlow' : 1 / 2 * pow2 e ≤ x := by
    rw [← le_div_iff₀ hunit]
    linarith
  constructor
  · calc pow10 (-400) ≤ pow2 (-1100) := pow10_le_pow2 (by omega)
      _ < pow2 (-1 + -1074) := pow2_lt_pow2 (by omega)
      _ ≤ pow2 (-1 + e) := pow2_le_pow2 (by have := h.2.1; omega)
      _ = 1 / 2 * pow2 e := by rw [pow2_add, pow2_eq_zpow (-1)]; norm_num
      _ ≤ x := hlow'
  · calc x ≤ (m + 1 / 2) * pow2 e := hhigh
      _ < pow2 53 * pow2 e := by
          gcongr
          norm_num [pow2_eq_zpow]
          linarith
      _ = pow2 (53 + e) := (pow2_add 53 e).symm
      _ ≤ pow2 1200 := pow2_le_pow2 (by have := h.2.2.1; omega)
      _ ≤ pow10 400 := pow2_le_pow10 (by omega) (by omega)

/-- **A decimal whose value reads back as a datum is read as that datum.** -/
theorem ofDecimal_of_readsBackAs (negative : Bool) (hm : m ≠ 0) (h : Canonical m e) {n : ℕ}
    {k : ℤ} (hx : readsBackAs m e (n * pow10 k) = true) :
    ofDecimal negative n k = finite negative m e h := by
  have hn : n ≠ 0 := by
    rintro rfl
    rw [Nat.cast_zero, zero_mul, readsBackAs_zero hm] at hx
    cases hx
  obtain ⟨hlow, hhigh⟩ := mem_range_of_readsBackAs hm h hx
  obtain ⟨hdigits, hdigits'⟩ := Number.pow10_length_decimalDigits hn
  have hspan := pow10_pos k
  rw [ofDecimal, if_neg hn]
  simp only
  rw [← FloatLayout.decimalDigits]
  generalize ((FloatLayout.decimalDigits n).length : ℤ) = l at hdigits hdigits' ⊢
  -- a datum is between the powers of ten beyond which a decimal is infinite or zero
  have hover : ¬400 < k + l := by
    intro hover
    have hlarge : pow10 400 ≤ n * pow10 k :=
      calc pow10 400 ≤ pow10 (l - 1 + k) := pow10_le_pow10 (by omega)
        _ = pow10 (l - 1) * pow10 k := pow10_add (l - 1) k
        _ ≤ n * pow10 k := by gcongr
    exact hhigh.not_ge hlarge
  have hunder : ¬k + l < -400 := by
    intro hunder
    have hsmall : n * pow10 k ≤ pow10 (-400) :=
      calc n * pow10 k ≤ pow10 l * pow10 k := by gcongr
        _ = pow10 (l + k) := (pow10_add l k).symm
        _ ≤ pow10 (-400) := pow10_le_pow10 (by omega)
    exact hlow.not_ge hsmall
  rw [if_neg hover, if_neg hunder, roundMagnitude_of_readsBackAs negative hm h hx]

end Binary64
end CourtDocket
