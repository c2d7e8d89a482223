/-
# The ratios of a countdown

The ratios of a countdown are a share of its span and what that share leaves of one.  Whatever the
three integers are that a countdown is made of,

| the ratio that remains | because |
| --- | --- |
| is between zero and one, and zero only when nothing remains | it is a share of the span |
| is one as long as the whole span remains | all of a whole is one |
| does not grow while the clock advances | a smaller part is not a larger share |
| adds up to one with the ratio that has elapsed | what a share leaves of one is rounded away |

and so the dash offset of the ring stays between zero and the circumference.
-/

import CourtDocket.Proofs.Docket.CountdownFields
import CourtDocket.Proofs.Number.Share

namespace CourtDocket
namespace CountdownState

/-! ### The ratio that remains -/

/-- A span that is not positive has elapsed. -/
theorem compute_of_nonpos {total : Int64} (h : total.toInt ≤ 0) (now stop : Int64) :
    compute now stop total = elapsed :=
  if_pos (nonpos_iff.2 h)

/-- The ratio that remains is the part of the span that remains. -/
theorem ratioRemaining_eq_share {total : Int64} (h : 0 < total.toInt) (now stop : Int64) :
    (compute now stop total).ratioRemaining = share (compute now stop total).remaining total := by
  rw [compute, if_neg (nonpos_iff.not.2 h.not_ge)]
  rfl

/-- The ratio that remains is between zero and one. -/
theorem within_ratioRemaining (now stop total : Int64) :
    (compute now stop total).ratioRemaining.Within 0 1 := by
  rcases le_or_gt total.toInt 0 with h | h
  · rw [compute_of_nonpos h]
    exact (Binary64.denotes_zero false).within le_rfl zero_le_one
  · rw [ratioRemaining_eq_share h]
    exact within_share _ _

/-- No negative time remains. -/
theorem remaining_nonneg (now stop total : Int64) :
    0 ≤ (compute now stop total).remaining.toInt := by
  rw [toInt_remaining_compute]
  split_ifs
  · exact le_rfl
  · exact le_max_right _ _

/-- The ratio that remains is zero just when no time remains. -/
theorem ratioRemaining_eq_zero_iff (now stop total : Int64) :
    (compute now stop total).ratioRemaining.toRat = 0 ↔
      (compute now stop total).remaining.toInt = 0 := by
  have hzero := (Binary64.denotes_zero false).toRat_eq
  rcases le_or_gt total.toInt 0 with h | h
  · rw [compute_of_nonpos h]
    exact iff_of_true hzero rfl
  rw [ratioRemaining_eq_share h]
  rcases (remaining_nonneg now stop total).eq_or_lt with hnone | hsome
  · rw [share_of_nonpos h hnone.symm.le]
    exact iff_of_true hzero hnone.symm
  · exact iff_of_false (share_pos h hsome).ne' hsome.ne'

/-- **The ratio that remains does not grow while the clock advances.** -/
theorem ratioRemaining_antitone {now later : Int64} (h : now ≤ later) (stop total : Int64) :
    (compute later stop total).ratioRemaining.toRat ≤
      (compute now stop total).ratioRemaining.toRat := by
  rcases le_or_gt total.toInt 0 with hnone | hsome
  · rw [compute_of_nonpos hnone, compute_of_nonpos hnone]
  · rw [ratioRemaining_eq_share hsome, ratioRemaining_eq_share hsome]
    exact share_mono hsome (Int64.le_iff_toInt_le.1 (remaining_compute_le h Int64.le_rfl stop))

/-! ### The ratio that has elapsed -/

/-- What has elapsed is what the ratio that remains leaves of one, also of a span that is over. -/
theorem ratioElapsed_eq (now stop total : Int64) :
    (compute now stop total).ratioElapsed = .one - (compute now stop total).ratioRemaining := by
  rcases le_or_gt total.toInt 0 with h | h
  · rw [compute_of_nonpos h]
    show Binary64.one = Binary64.one - Binary64.zero false
    decide +kernel
  · rw [compute, if_neg (nonpos_iff.not.2 h.not_ge)]

end CountdownState

/-- **The dash offset of a ring is between zero and the circumference**, whatever the ratio is. -/
theorem within_dashOffset {circumference : Binary64} {c : ℚ} (h : circumference.Denotes c)
    (hc : 0 ≤ c) (ratio : Binary64) : (dashOffset circumference ratio).Within 0 c :=
  Binary64.Within.mul h hc (Binary64.within_clampUnit ratio).one_sub

/-! ### Countdowns -/

/-- **What the state of a countdown tells** at the time `now` when it ends at `stop` and runs over
a span of `total` milliseconds. -/
structure CountdownState.Tells (s : CountdownState) (now stop total : ℤ) : Prop where
  /-- Nothing remains of a span that is not positive, and else what is left up to the end. -/
  remaining : s.remaining.toInt = if total ≤ 0 then 0 else remainingMillis now stop
  /-- No less than nothing remains. -/
  remaining_nonneg : 0 ≤ s.remaining.toInt
  /-- The ratio that remains is between zero and one. -/
  ratioRemaining : s.ratioRemaining.Within 0 1
  /-- So is the ratio that has elapsed. -/
  ratioElapsed : s.ratioElapsed.Within 0 1
  /-- Together they are one. -/
  add_eq_one : s.ratioRemaining + s.ratioElapsed = .one
  /-- The ratio is zero only when nothing remains. -/
  eq_zero_iff : s.ratioRemaining.toRat = 0 ↔ s.remaining.toInt = 0
  /-- It is one as long as the whole span remains. -/
  eq_one : 0 < total → total ≤ s.remaining.toInt → s.ratioRemaining.toRat = 1

/-- A countdown tells what remains of the exact integers, held within the range. -/
theorem CountdownState.tells_compute (now stop total : Int64) :
    (compute now stop total).Tells now.toInt stop.toInt total.toInt := by
  have hwithin := within_ratioRemaining now stop total
  constructor
  case remaining => rw [toInt_remaining_compute, max_toInt_subSat]
  case remaining_nonneg => exact CountdownState.remaining_nonneg now stop total
  case ratioRemaining => exact hwithin
  case ratioElapsed =>
    rw [ratioElapsed_eq]
    exact hwithin.one_sub
  case add_eq_one =>
    rw [ratioElapsed_eq]
    exact hwithin.add_one_sub
  case eq_zero_iff => exact ratioRemaining_eq_zero_iff now stop total
  case eq_one =>
    intro hspan hall
    rw [ratioRemaining_eq_share hspan, share_of_le hspan hall]
    exact Binary64.denotes_one.toRat_eq

/-- **The ratios of a countdown are sound.**  At every time they tell what remains of the span, the
one that remains does not grow while the clock advances, and the dash offset stays between zero and
the circumference. -/
theorem Countdown.ratios_sound (stop total : Int64) :
    (∀ now, (CountdownState.compute now stop total).Tells now.toInt stop.toInt total.toInt) ∧
    (∀ now later, now ≤ later →
      (CountdownState.compute later stop total).ratioRemaining.toRat ≤
        (CountdownState.compute now stop total).ratioRemaining.toRat) ∧
    ∀ (now : Int64) (circumference : Binary64), circumference.isFinite = true →
      0 ≤ circumference.toRat →
      (Countdown.build now stop total circumference).dashOffset.Within 0 circumference.toRat := by
  refine ⟨fun now => CountdownState.tells_compute now stop total, fun now later h =>
    CountdownState.ratioRemaining_antitone h stop total, fun now circumference hfinite hc => ?_⟩
  exact within_dashOffset (Binary64.denotes_toRat hfinite) hc _

/-- A clock that goes on from the lower end of 64 bits, so that what remains is held at the upper
end, and a ring of the circumference that the settings have by themselves. -/
theorem Countdown.ratios_sound_longWait :
    (CountdownState.compute Int64.minValue Int64.maxValue 3).Tells
        Int64.minValue.toInt Int64.maxValue.toInt 3 ∧
      Int64.minValue ≤ 9223372036854775805 ∧
      (CountdownState.compute 9223372036854775805 Int64.maxValue 3).ratioRemaining.toRat ≤
        (CountdownState.compute Int64.minValue Int64.maxValue 3).ratioRemaining.toRat ∧
      ({} : Settings).ringCircumference.isFinite = true ∧
      0 ≤ ({} : Settings).ringCircumference.toRat ∧
      (Countdown.build 9223372036854775805 Int64.maxValue 3
        ({} : Settings).ringCircumference).dashOffset.Within 0
          ({} : Settings).ringCircumference.toRat := by
  obtain ⟨htells, hantitone, hoffset⟩ := Countdown.ratios_sound Int64.maxValue 3
  have hclock : Int64.minValue ≤ 9223372036854775805 := by decide
  have hfinite : ({} : Settings).ringCircumference.isFinite = true := by decide +kernel
  have hnonneg : 0 ≤ ({} : Settings).ringCircumference.toRat := by decide +kernel
  exact ⟨htells _, hclock, hantitone _ _ hclock, hfinite, hnonneg, hoffset _ _ hfinite hnonneg⟩

/-- What remains may be too little to show in the ratio that has elapsed. -/
example : (CountdownState.compute 0 1 9223372036854775807).remaining = 1 ∧
    (CountdownState.compute 0 1 9223372036854775807).ratioElapsed = .one := by
  decide +kernel

end CourtDocket
