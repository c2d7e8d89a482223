/-
# The colours of a ring are a ramp

The colour of a ring goes from red over orange to green while the ratio that it shows grows:

| ratio | red | green | blue |
| --- | --- | --- | --- |
| up to one half | rises from 239 to 245 | rises from 68 to 158 | falls from 68 to 11 |
| from one half on | falls to 34 | rises to 197 | rises to 94 |

Ratios are compared by what they stand for (`Binary64.ratio`), numbers outside of the unit interval,
infinities and what is no number included; held between zero and one they keep their order
(`toRat_clampUnit_mono`).  The part of either half of the way that a ratio is at keeps it too, and at
one half, where the two ways meet, both have the same colour (`RingColour.ofRatio_of_le_half`).
-/

import CourtDocket.Number.Digit
import CourtDocket.Proofs.Ring.Channel
import Mathlib.Order.WithBot

namespace CourtDocket

/-! ### The order of ratios -/

/-- The numbers, and what is beyond all of them on either side. -/
abbrev Extended : Type :=
  WithBot (WithTop ℚ)

/-- A number among what is beyond. -/
def Extended.ofRat (q : ℚ) : Extended :=
  ((q : WithTop ℚ) : WithBot (WithTop ℚ))

/-- The numbers keep their order among what is beyond. -/
theorem Extended.ofRat_le_ofRat {p q : ℚ} : ofRat p ≤ ofRat q ↔ p ≤ q :=
  WithBot.coe_le_coe.trans WithTop.coe_le_coe

/-- The numbers keep their order among what is beyond, as a map. -/
theorem Extended.monotone_ofRat : Monotone ofRat :=
  fun _ _ h => ofRat_le_ofRat.2 h

namespace Binary64

open Extended

/-- What a ratio stands for.  What is no number counts as zero. -/
def ratio : Binary64 → Extended
  | nan => ofRat 0
  | infinite negative => if negative then ⊥ else (⊤ : WithTop ℚ)
  | finite s m e h => ofRat (finite s m e h).toRat

variable {a b : Binary64}

/-- **A ratio held between zero and one is the nearer end, or itself.** -/
theorem ofRat_clampUnit (a : Binary64) :
    ofRat a.clampUnit.toRat = max (ofRat 0) (min a.ratio (ofRat 1)) := by
  have hunit : ofRat 0 ≤ ofRat 1 := ofRat_le_ofRat.2 zero_le_one
  match a with
  | nan =>
    have hclamp : nan.clampUnit = zero false := rfl
    rw [hclamp, (denotes_zero false).toRat_eq]
    exact (max_eq_left (min_le_left _ _)).symm
  | infinite true =>
    have hclamp : (infinite true).clampUnit = zero false := rfl
    rw [hclamp, (denotes_zero false).toRat_eq]
    exact (max_eq_left ((min_le_left _ _).trans bot_le)).symm
  | infinite false =>
    have hclamp : (infinite false).clampUnit = one := rfl
    have htop : ofRat 1 ≤ (infinite false).ratio := WithBot.coe_le_coe.2 le_top
    rw [hclamp, denotes_one.toRat_eq, min_eq_right htop, max_eq_right hunit]
  | finite s m e h =>
    have hdenotes : (finite s m e h).Denotes _ := denotes_toRat rfl
    rw [hdenotes.clampUnit.toRat_eq, monotone_ofRat.map_max, monotone_ofRat.map_min]
    rfl

/-- A greater ratio is not less when both are held between zero and one. -/
theorem toRat_clampUnit_mono (h : a.ratio ≤ b.ratio) : a.clampUnit.toRat ≤ b.clampUnit.toRat := by
  rw [← ofRat_le_ofRat, ofRat_clampUnit, ofRat_clampUnit]
  exact max_le_max_left _ (min_le_min_right _ h)

/-- The datum of one half denotes it. -/
theorem denotes_half : half.Denotes (1 / 2) := by
  refine ⟨rfl, ?_⟩
  norm_num [half, toRat, pow2_eq_zpow]

/-- The datum of two denotes it. -/
theorem denotes_two : two.Denotes 2 := by
  refine ⟨rfl, ?_⟩
  norm_num [two, toRat, pow2_eq_zpow]

/-- A datum that denotes a number stands for it as a ratio. -/
theorem Denotes.ratio_eq {q : ℚ} (h : a.Denotes q) : a.ratio = ofRat q := by
  rw [← h.toRat_eq]
  cases a with
  | finite _ _ _ _ => rfl
  | nan => cases h.isFinite
  | infinite _ => cases h.isFinite

/-- The ratio of one half is one half. -/
theorem ratio_half : half.ratio = ofRat (1 / 2) :=
  denotes_half.ratio_eq

/-- One half is between zero and one. -/
theorem toRat_clampUnit_half : half.clampUnit.toRat = 1 / 2 := by
  rw [denotes_half.clampUnit.toRat_eq]
  norm_num

/-- A ratio of at most one half is held at no more. -/
theorem toRat_clampUnit_le_half (h : a.ratio ≤ ofRat (1 / 2)) : a.clampUnit.toRat ≤ 1 / 2 := by
  rw [← ratio_half] at h
  exact (toRat_clampUnit_mono h).trans_eq toRat_clampUnit_half

/-- A ratio of at least one half is held at no less. -/
theorem half_le_toRat_clampUnit (h : ofRat (1 / 2) ≤ a.ratio) : 1 / 2 ≤ a.clampUnit.toRat := by
  rw [← ratio_half] at h
  exact toRat_clampUnit_half.symm.trans_le (toRat_clampUnit_mono h)

/-- A part of one half is doubled exactly. -/
theorem Denotes.mul_two {q : ℚ} (h : a.Denotes q) (hlow : 0 ≤ q) (hhigh : q ≤ 1 / 2) :
    (a * two).Denotes (q * 2) := by
  have hexact : nearest (q * 2) = q * 2 := by
    obtain ⟨n, e, hn, he, -, rfl⟩ := h.exists_dyadic
    have htwo : pow2 e * 2 = pow2 (e + 1) := by
      rw [pow2_add, pow2_eq_zpow 1, zpow_one]
    rw [mul_assoc, htwo]
    exact nearest_dyadic hn (by omega)
  rw [← hexact]
  refine h.mul denotes_two (abs_lt_pow2_of_mem ?_ ?_) <;> linarith

end Binary64

/-! ### The two halves of the way -/

namespace RingColour

open Binary64

/-- The part of the way from empty to half a ring. -/
def lowerPart (a : Binary64) : Binary64 :=
  a.clampUnit * two

/-- The part of the way from half a ring to a full one. -/
def upperPart (a : Binary64) : Binary64 :=
  (a.clampUnit - half) * two

variable {a b : Binary64}

/-- The part of the lower half is twice the ratio, exactly. -/
theorem denotes_lowerPart (h : a.clampUnit.toRat ≤ 1 / 2) :
    (lowerPart a).Denotes (a.clampUnit.toRat * 2) :=
  (within_clampUnit a).denotes.mul_two (within_clampUnit a).low_le h

/-- The part of the lower half is between zero and one. -/
theorem within_lowerPart (h : a.clampUnit.toRat ≤ 1 / 2) : (lowerPart a).Within 0 1 := by
  have hlow := (within_clampUnit a).low_le
  refine (denotes_lowerPart h).within ?_ ?_ <;> linarith

/-- The ratio beyond one half is rounded to at most one half. -/
theorem nearest_sub_half_mem (h : 1 / 2 ≤ a.clampUnit.toRat) :
    0 ≤ nearest (a.clampUnit.toRat - 1 / 2) ∧ nearest (a.clampUnit.toRat - 1 / 2) ≤ 1 / 2 := by
  have hhigh := (within_clampUnit a).le_high
  exact ⟨nearest_nonneg (by linarith), nearest_le denotes_half.nearest_eq (by linarith)⟩

/-- The part of the upper half is twice the rounded ratio beyond one half. -/
theorem denotes_upperPart (h : 1 / 2 ≤ a.clampUnit.toRat) :
    (upperPart a).Denotes (nearest (a.clampUnit.toRat - 1 / 2) * 2) := by
  obtain ⟨hlow, hhigh⟩ := nearest_sub_half_mem h
  have hsub := (within_clampUnit a).denotes.sub denotes_half
    (abs_lt_pow2_of_mem hlow (by linarith))
  exact hsub.mul_two hlow hhigh

/-- The part of the upper half is between zero and one. -/
theorem within_upperPart (h : 1 / 2 ≤ a.clampUnit.toRat) : (upperPart a).Within 0 1 := by
  obtain ⟨hlow, hhigh⟩ := nearest_sub_half_mem h
  refine (denotes_upperPart h).within ?_ ?_ <;> linarith

/-- The part of the lower half grows with the ratio. -/
theorem lowerPart_mono (h : a.clampUnit.toRat ≤ b.clampUnit.toRat)
    (hb : b.clampUnit.toRat ≤ 1 / 2) : (lowerPart a).toRat ≤ (lowerPart b).toRat := by
  rw [(denotes_lowerPart (h.trans hb)).toRat_eq, (denotes_lowerPart hb).toRat_eq]
  linarith

/-- The part of the upper half grows with the ratio. -/
theorem upperPart_mono (h : a.clampUnit.toRat ≤ b.clampUnit.toRat)
    (ha : 1 / 2 ≤ a.clampUnit.toRat) : (upperPart a).toRat ≤ (upperPart b).toRat := by
  rw [(denotes_upperPart ha).toRat_eq, (denotes_upperPart (ha.trans h)).toRat_eq]
  linarith [nearest_mono (sub_le_sub_right h (1 / 2))]

/-- From one half on, the colour is between those of half a ring and of a full one. -/
theorem ofRatio_of_half_le (h : 1 / 2 ≤ a.clampUnit.toRat) :
    ofRatio a = between middle full (upperPart a) := by
  have habove : ¬a.clampUnit.lt half = true :=
    ((within_clampUnit a).denotes.lt_iff denotes_half).not.2 h.not_gt
  rw [ofRatio]
  exact if_neg habove

/-- **The two halves meet**: at one half the way from empty has come to its end, which is where the
way to full starts. -/
theorem ofRatio_of_le_half (h : a.clampUnit.toRat ≤ 1 / 2) :
    ofRatio a = between empty middle (lowerPart a) := by
  rcases h.lt_or_eq with hlt | heq
  · have hbelow : a.clampUnit.lt half = true :=
      ((within_clampUnit a).denotes.lt_iff denotes_half).2 hlt
    rw [ofRatio]
    exact if_pos hbelow
  · have hlower := (denotes_lowerPart h).toRat_eq
    have hupper := (denotes_upperPart heq.ge).toRat_eq
    rw [heq, div_mul_cancel₀ _ two_ne_zero] at hlower
    rw [heq, sub_self, nearest_zero, zero_mul] at hupper
    rw [ofRatio_of_half_le heq.ge, between_of_eq_zero (within_upperPart heq.ge) hupper,
      between_of_eq_one (within_lowerPart h) hlower]

/-! ### The text of a colour -/

/-- The channel that two hexadecimal digits write. -/
def channelOfDigits? (high low : Char) : Option UInt8 := do
  let h ← Number.hexDigit? high
  let l ← Number.hexDigit? low
  pure (UInt8.ofNat (h * 16 + l))

/-- The colour that a text writes: a number sign and two hexadecimal digits for each channel. -/
def ofText? (text : String) : Option RingColour :=
  match text.toList with
  | ['#', r, r', g, g', b, b'] => do
    pure ⟨← channelOfDigits? r r', ← channelOfDigits? g g', ← channelOfDigits? b b'⟩
  | _ => none

/-- A hexadecimal digit is read back. -/
theorem hexDigit?_digitChar : ∀ d < 16, Number.hexDigit? (Nat.digitChar d) = some d := by
  decide

/-- A channel is read back from its two digits. -/
theorem channelOfDigits?_channelText (n : UInt8) :
    channelOfDigits? (Nat.digitChar (n.toNat / 16)) (Nat.digitChar (n.toNat % 16)) = some n := by
  have hn := n.toNat_lt
  have hvalue : n.toNat / 16 * 16 + n.toNat % 16 = n.toNat := Nat.div_add_mod' _ _
  rw [channelOfDigits?, hexDigit?_digitChar _ (by omega), hexDigit?_digitChar _ (by omega)]
  simp only [Option.bind_eq_bind, Option.bind_some, hvalue, UInt8.ofNat_toNat]
  rfl

/-- **A colour is read back from its text.** -/
theorem ofText?_text (c : RingColour) : ofText? c.text = some c := by
  rw [ofText?, text, String.toList_ofList]
  simp only [channelText, List.cons_append, List.nil_append, channelOfDigits?_channelText]
  rfl

/-! ### The ramp -/

/-- **Up to one half the colour is interpolated between those of an empty ring and of half a
ring.** -/
theorem interpolatedColour_of_le_half (h : a.clampUnit.toRat ≤ 1 / 2) :
    InterpolatedColour empty middle (lowerPart a) (ofRatio a) := by
  rw [ofRatio_of_le_half h]
  exact interpolatedColour_between empty middle (within_lowerPart h)

/-- **From one half on the colour is interpolated between those of half a ring and of a full
one.** -/
theorem interpolatedColour_of_half_le (h : 1 / 2 ≤ a.clampUnit.toRat) :
    InterpolatedColour middle full (upperPart a) (ofRatio a) := by
  rw [ofRatio_of_half_le h]
  exact interpolatedColour_between middle full (within_upperPart h)

/-- **Whether a colour comes no later than another on the way from empty to half a ring.** -/
structure LowerLE (c d : RingColour) : Prop where
  /-- Red does not fall. -/
  red : c.red ≤ d.red
  /-- Green does not fall. -/
  green : c.green ≤ d.green
  /-- Blue does not rise. -/
  blue : d.blue ≤ c.blue

/-- **Whether a colour comes no later than another on the way from half a ring to a full one.** -/
structure UpperLE (c d : RingColour) : Prop where
  /-- Red does not rise. -/
  red : d.red ≤ c.red
  /-- Green does not fall. -/
  green : c.green ≤ d.green
  /-- Blue does not fall. -/
  blue : c.blue ≤ d.blue

/-- In the lower half a greater ratio has no earlier colour. -/
theorem lowerLE_ofRatio (h : a.clampUnit.toRat ≤ b.clampUnit.toRat)
    (hb : b.clampUnit.toRat ≤ 1 / 2) : LowerLE (ofRatio a) (ofRatio b) := by
  have hparts := lowerPart_mono h hb
  have ha := within_lowerPart (h.trans hb)
  have hb' := within_lowerPart hb
  rw [ofRatio_of_le_half (h.trans hb), ofRatio_of_le_half hb]
  exact ⟨channelBetween_mono (by decide) ha hb' hparts,
    channelBetween_mono (by decide) ha hb' hparts, channelBetween_anti (by decide) ha hb' hparts⟩

/-- In the upper half a greater ratio has no earlier colour. -/
theorem upperLE_ofRatio (h : a.clampUnit.toRat ≤ b.clampUnit.toRat)
    (ha : 1 / 2 ≤ a.clampUnit.toRat) : UpperLE (ofRatio a) (ofRatio b) := by
  have hparts := upperPart_mono h ha
  have ha' := within_upperPart ha
  have hb := within_upperPart (ha.trans h)
  rw [ofRatio_of_half_le ha, ofRatio_of_half_le (ha.trans h)]
  exact ⟨channelBetween_anti (by decide) ha' hb hparts,
    channelBetween_mono (by decide) ha' hb hparts, channelBetween_mono (by decide) ha' hb hparts⟩

/-- Green rises all the way: across the middle it is on either side of the green of half a ring. -/
theorem green_mono (h : a.clampUnit.toRat ≤ b.clampUnit.toRat) :
    (ofRatio a).green ≤ (ofRatio b).green := by
  rcases le_total b.clampUnit.toRat (1 / 2) with hb | hb
  · exact (lowerLE_ofRatio h hb).green
  rcases le_total (1 / 2) a.clampUnit.toRat with ha | ha
  · exact (upperLE_ofRatio h ha).green
  · have hbelow := (interpolatedColour_of_le_half ha).green.le_high
    have habove := (interpolatedColour_of_half_le hb).green.low_le
    exact UInt8.le_iff_toNat_le.2 (hbelow.trans habove)

/-- **The colours of a ring are a ramp.**  While the ratio grows, green never falls, red rises and
blue falls up to one half, and red falls and blue rises from there on.  Every channel is the whole
number nearest to a number between the channels of the two colours that its half of the way goes
between, so that none is cut off.  A colour is read back from its text. -/
theorem ofRatio_ramp :
    (∀ a b : Binary64, a.ratio ≤ b.ratio →
      (ofRatio a).green ≤ (ofRatio b).green ∧
      (b.ratio ≤ .ofRat (1 / 2) → LowerLE (ofRatio a) (ofRatio b)) ∧
      (.ofRat (1 / 2) ≤ a.ratio → UpperLE (ofRatio a) (ofRatio b))) ∧
    (∀ a : Binary64,
      (a.ratio ≤ .ofRat (1 / 2) →
        InterpolatedColour empty middle (a.clampUnit * two) (ofRatio a)) ∧
      (.ofRat (1 / 2) ≤ a.ratio →
        InterpolatedColour middle full ((a.clampUnit - half) * two) (ofRatio a))) ∧
    ∀ c : RingColour, ofText? c.text = some c := by
  refine ⟨fun a b h => ?_, fun a => ⟨fun ha => ?_, fun ha => ?_⟩, ofText?_text⟩
  · have hclamp := toRat_clampUnit_mono h
    exact ⟨green_mono hclamp, fun hb => lowerLE_ofRatio hclamp (toRat_clampUnit_le_half hb),
      fun ha => upperLE_ofRatio hclamp (half_le_toRat_clampUnit ha)⟩
  · exact interpolatedColour_of_le_half (toRat_clampUnit_le_half ha)
  · exact interpolatedColour_of_half_le (half_le_toRat_clampUnit ha)

/-- What is no number counts as zero, so a quarter comes later; both are in the lower half. -/
theorem ofRatio_ramp_nan_quarter :
    (ofRatio nan = empty ∧ ofRatio (half * half) = ⟨242, 113, 40⟩) ∧
      LowerLE (ofRatio nan) (ofRatio (half * half)) := by
  refine ⟨by decide +kernel, ?_⟩
  have hquarter : (half * half).Denotes (1 / 4) := ⟨by decide +kernel, by decide +kernel⟩
  have hpos : (nan).ratio ≤ (half * half).ratio := by
    rw [hquarter.ratio_eq]
    exact Extended.ofRat_le_ofRat.2 (by norm_num)
  have hhalf : (half * half).ratio ≤ .ofRat (1 / 2) := by
    rw [hquarter.ratio_eq]
    exact Extended.ofRat_le_ofRat.2 (by norm_num)
  exact (ofRatio_ramp.1 nan (half * half) hpos).2.1 hhalf

end RingColour
end CourtDocket
