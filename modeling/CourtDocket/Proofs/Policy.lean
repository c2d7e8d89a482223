/-
# Starting times are compared exactly

A starting time is compared with a bound by the milliseconds from now to it, in 64 bits.  Where
their exact number does not fit, it is held at an end of the range, and the end is on the same side
of a bound as what lies beyond it unless the bound is that end itself:

| comparison | exact unless the bound is | lemma |
| --- | --- | --- |
| above a bound | the upper end | `lt_millisUntil_iff` |
| up to a bound | the upper end | `millisUntil_le_iff` |
| from now on | never | `millisUntil_nonneg_iff` |
| from now on and below a bound | never | `millisUntil_lt_iff` |

The horizon of the policy may be the upper end, and then no hearing is beyond it.  The bound of a
window of starting times is not.
-/

import CourtDocket.Docket.Search
import CourtDocket.Proofs.Time.Instant

namespace CourtDocket

/-- The milliseconds from now to an instant, exactly. -/
def exactUntil (t : Timestamp) (now : Int64) : ℤ :=
  t.millis - now.toInt

section Comparison

variable (t : Timestamp) (now bound : Int64)

/-- The time until a hearing is the exact one, held within 64 bits. -/
theorem toInt_millisUntil : (millisUntil t now).toInt =
    max (-9223372036854775808) (min (exactUntil t now) 9223372036854775807) := by
  rw [millisUntil, toInt_subSat, t.toInt_epochMillis, exactUntil]

/-- A bound is below the end of the range or at it. -/
theorem ne_maxValue_iff : bound ≠ Int64.maxValue ↔ bound.toInt < 9223372036854775807 := by
  have hmax : Int64.maxValue.toInt = 9223372036854775807 := by decide
  have hhigh := Int64.toInt_lt bound
  rw [ne_eq, ← Int64.toInt_inj, hmax]
  omega

/-- The time until a hearing is above a bound just when the exact one is, but that nothing is above
the end of the range. -/
theorem lt_millisUntil_iff :
    bound < millisUntil t now ↔ bound.toInt < exactUntil t now ∧ bound ≠ Int64.maxValue := by
  have hlow := Int64.le_toInt bound
  rw [Int64.lt_iff_toInt_lt, toInt_millisUntil, ne_maxValue_iff]
  omega

/-- The time until a hearing is not negative just when the exact one is not. -/
theorem millisUntil_nonneg_iff : 0 ≤ millisUntil t now ↔ 0 ≤ exactUntil t now := by
  rw [Int64.le_iff_toInt_le, toInt_millisUntil, Int64.toInt_zero]
  omega

variable {t now bound}

/-- From now on, the time until a hearing is below a bound just when the exact one is. -/
theorem millisUntil_lt_iff (h : 0 ≤ exactUntil t now) :
    millisUntil t now < bound ↔ exactUntil t now < bound.toInt := by
  have hhigh := Int64.toInt_lt bound
  rw [Int64.lt_iff_toInt_lt, toInt_millisUntil]
  omega

/-- The time until a hearing is at most a bound below the end of the range just when the exact one
is. -/
theorem millisUntil_le_iff (h : bound ≠ Int64.maxValue) :
    millisUntil t now ≤ bound ↔ exactUntil t now ≤ bound.toInt := by
  have hlow := Int64.le_toInt bound
  have hhigh := (ne_maxValue_iff bound).1 h
  rw [Int64.le_iff_toInt_le, toInt_millisUntil]
  omega

end Comparison

/-! ### Starting times -/

variable (w : PolicyWindow) (start : Option Timestamp) (now : Int64)

/-- A hearing is beyond the horizon just when it has a time, more than the horizon away; the end of
the range is no horizon. -/
theorem PolicyWindow.isBeyondHorizon_iff : w.isBeyondHorizon start now = true ↔
    ∃ t, start = some t ∧ w.horizon.toInt < exactUntil t now ∧ w.horizon ≠ Int64.maxValue := by
  simp only [isBeyondHorizon, Option.any_eq_true, decide_eq_true_eq, lt_millisUntil_iff]

/-- A hearing is below the floor just when it has a time, from now on and less than the floor
away. -/
theorem PolicyWindow.isBelowFloor_iff : w.isBelowFloor start now = true ↔
    ∃ t, start = some t ∧ 0 ≤ exactUntil t now ∧ exactUntil t now < w.floor.toInt := by
  simp only [isBelowFloor, Option.any_eq_true, Bool.and_eq_true, decide_eq_true_eq,
    millisUntil_nonneg_iff]
  refine exists_congr fun t => and_congr_right fun _ => and_congr_right fun hfuture => ?_
  exact millisUntil_lt_iff hfuture

/-- A window of starting times ends long before the range of 64 bits does. -/
theorem StartWindow.bound_ne_maxValue {window : StartWindow} {bound : Int64}
    (h : window.bound? = some bound) : bound ≠ Int64.maxValue := by
  cases window with
  | anyTime => cases h
  | nextTwoHours =>
    cases h
    decide
  | nextSixHours =>
    cases h
    decide

/-- A hearing is within a window just when it has a time, from now on and at most the bound away. -/
theorem withinWindow_iff {window : StartWindow} {bound : Int64}
    (h : window.bound? = some bound) : withinWindow start now window = true ↔
      ∃ t, start = some t ∧ 0 ≤ exactUntil t now ∧ exactUntil t now ≤ bound.toInt := by
  simp only [withinWindow, h, Option.any_eq_true, Bool.and_eq_true, decide_eq_true_eq,
    millisUntil_nonneg_iff, millisUntil_le_iff (StartWindow.bound_ne_maxValue h)]

/-- **How a starting time compares with the bounds of the policy and of a window is told by the
exact number of milliseconds to it.**  A time that is not there is beyond none of them, below none
and within none.  A time beyond the horizon is below the floor as well only where the floor is more
than one above the horizon. -/
theorem PolicyWindow.compares_exactly :
    ((w.classify start now).outOfWindow = true ↔
      ∃ t, start = some t ∧ w.horizon.toInt < exactUntil t now ∧ w.horizon ≠ Int64.maxValue) ∧
    ((w.classify start now).belowFloor = true ↔
      ∃ t, start = some t ∧ 0 ≤ exactUntil t now ∧ exactUntil t now < w.floor.toInt) ∧
    (∀ window bound, StartWindow.bound? window = some bound →
      (withinWindow start now window = true ↔
        ∃ t, start = some t ∧ 0 ≤ exactUntil t now ∧ exactUntil t now ≤ bound.toInt)) ∧
    ((w.classify start now).outOfWindow = true → (w.classify start now).belowFloor = true →
      w.horizon.toInt + 1 < w.floor.toInt) := by
  have hbeyond := w.isBeyondHorizon_iff start now
  have hbelow := w.isBelowFloor_iff start now
  refine ⟨hbeyond, hbelow, fun window bound h => withinWindow_iff start now h, fun hout hlow => ?_⟩
  obtain ⟨t, ht, hhorizon, -⟩ := hbeyond.1 hout
  obtain ⟨u, hu, -, hfloor⟩ := hbelow.1 hlow
  obtain rfl : t = u := Option.some.inj (ht.symm.trans hu)
  omega

/-- A hearing in five milliseconds, under a policy whose floor is above its horizon. -/
theorem PolicyWindow.compares_exactly_overlap :
    (classify ⟨0, 10⟩ (Timestamp.ofMillis? 5) 0).outOfWindow = true ∧
      (classify ⟨0, 10⟩ (Timestamp.ofMillis? 5) 0).belowFloor = true ∧
      (0 : Int64).toInt + 1 < (10 : Int64).toInt ∧
      StartWindow.bound? .nextTwoHours = some 7200000 ∧
      withinWindow (Timestamp.ofMillis? 5) 0 .nextTwoHours = true := by
  obtain ⟨t, ht, hexact⟩ : ∃ t, Timestamp.ofMillis? 5 = some t ∧ exactUntil t 0 = 5 :=
    ⟨_, rfl, rfl⟩
  obtain ⟨hbeyond, hbelow, hwithin, hoverlap⟩ :=
    PolicyWindow.compares_exactly ⟨0, 10⟩ (Timestamp.ofMillis? 5) 0
  have hout := hbeyond.2 ⟨t, ht, by rw [hexact]; decide, by decide⟩
  have hlow := hbelow.2 ⟨t, ht, by omega, by rw [hexact]; decide⟩
  have hbound : StartWindow.bound? .nextTwoHours = some 7200000 := rfl
  refine ⟨hout, hlow, hoverlap hout hlow, hbound, (hwithin _ _ hbound).2 ⟨t, ht, by omega, ?_⟩⟩
  rw [hexact]
  decide

end CourtDocket
