/-
# Counting days along the calendar

The number of a date is what one gets by counting: from the first of January of year zero the days
of the years before it, then those of the months before it in its year, then those of the month
(`Date.dayCount`).  A year and a month begin where the ones before them end, so the formula of
`Date.toDays` counts alike (`Date.toDays_eq_dayCount`).
-/

import CourtDocket.Proofs.Time.Calendar
import Mathlib.Algebra.BigOperators.Intervals

namespace CourtDocket
namespace Date

/-- The days of a year. -/
def daysInYear (year : ℤ) : ℕ :=
  if isLeapYear year then 366 else 365

/-- The days from the first of January of year zero to a date. -/
def dayCount (d : Date) : ℕ :=
  ∑ year ∈ Finset.range d.year.toNat, daysInYear year +
    ∑ month ∈ Finset.Ico 1 d.month, daysInMonth d.year month + (d.day - 1)

/-- The next year begins where the days of a year end. -/
theorem toDays_january_succ (year : ℤ) :
    toDays ⟨year + 1, 1, 1⟩ = toDays ⟨year, 1, 1⟩ + daysInYear year := by
  rw [toDays_january, toDays_january, daysInYear, isLeapYear]
  split_ifs with hleap
  · simp only [decide_eq_true_eq] at hleap
    push_cast
    omega
  · simp only [decide_eq_true_eq] at hleap
    push_cast
    omega

/-- The next month begins where the days of a month end. -/
theorem toDays_month_succ (year : ℤ) {month : ℕ} (h₁ : 1 ≤ month) (h₂ : month < 12) :
    toDays ⟨year, month + 1, 1⟩ = toDays ⟨year, month, 1⟩ + daysInMonth year month := by
  simp only [daysInMonth, isLeapYear]
  interval_cases month <;> simp [toDays] <;> (try split_ifs) <;> omega

/-- The first day of a year comes as many days later as the years between have. -/
theorem toDays_january_eq_sum (n : ℕ) :
    toDays ⟨n, 1, 1⟩ = toDays ⟨0, 1, 1⟩ + (∑ year ∈ Finset.range n, daysInYear year : ℕ) := by
  induction n with
  | zero => rfl
  | succ n ih =>
    have hstep := toDays_january_succ n
    rw [Finset.sum_range_succ]
    push_cast at hstep ih ⊢
    omega

/-- The first day of a month comes as many days later as the months between have. -/
theorem toDays_month_eq_sum (year : ℤ) {month : ℕ} (h₁ : 1 ≤ month) (h₂ : month ≤ 12) :
    toDays ⟨year, month, 1⟩ =
      toDays ⟨year, 1, 1⟩ + (∑ m ∈ Finset.Ico 1 month, daysInMonth year m : ℕ) := by
  induction month, h₁ using Nat.le_induction with
  | base => simp
  | succ month h₁ ih =>
    have hstep := toDays_month_succ year h₁ h₂
    have hih := ih (by omega)
    rw [Finset.sum_Ico_succ_top h₁]
    push_cast at hstep hih ⊢
    omega

/-- **The number of a date counts the days of the calendar**, 1970-01-01 being zero. -/
theorem toDays_eq_dayCount {d : Date} (hyear : 0 ≤ d.year) (h : d.IsCivil) :
    d.toDays = d.dayCount - (dayCount ⟨1970, 1, 1⟩ : ℤ) := by
  -- both dates are counted from year zero
  have hcount : ∀ e : Date, 0 ≤ e.year → e.IsCivil →
      e.toDays = toDays ⟨0, 1, 1⟩ + (e.dayCount : ℤ) := by
    rintro ⟨year, month, day⟩ hyear ⟨hmonth₀, hmonth₁, hday₀, -⟩
    obtain ⟨n, rfl⟩ := Int.eq_ofNat_of_zero_le hyear
    have hfirst : toDays ⟨n, month, day⟩ = toDays ⟨n, month, 1⟩ + (day - 1 : ℕ) := by
      simp only [toDays]
      push_cast [hday₀]
      omega
    have hmonth := toDays_month_eq_sum n hmonth₀ hmonth₁
    have hjanuary := toDays_january_eq_sum n
    simp only [dayCount, Int.toNat_natCast]
    push_cast at hfirst hmonth hjanuary ⊢
    omega
  have hepoch := hcount ⟨1970, 1, 1⟩ (by decide) ⟨by decide, by decide, by decide, by decide⟩
  have hzero : toDays ⟨1970, 1, 1⟩ = 0 := by decide
  rw [hcount d hyear h]
  omega

end Date
end CourtDocket
