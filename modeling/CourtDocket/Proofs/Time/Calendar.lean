/-
# Dates and day numbers are two names of a day

`Date.toDays` numbers the dates of the calendar and `Date.ofDays` gives a number its date.  Both
reckon in years that start in March, grouped by the rules for leap days; a day written that way is
a `MarchDay`, which knows its date and its number:

| part | how many | days |
| --- | --- | --- |
| era | any | 146097 |
| century of the era | 4 | 36524, the last one 36525 |
| cycle of the century | 25 | 1461, the last one 1460 unless it ends an era |
| year of the cycle | 4 | 365, the last one 366 unless its cycle is short |
| month of the year | 12 | the five months from March have 153, as do the next five |

Every number and every date of the calendar are those of such a day (`exists_number`,
`exists_date`), so the two functions undo each other (`Date.toDays_ofDays`, `Date.ofDays_toDays`).
-/

import CourtDocket.Time.Date
import Mathlib.Tactic.IntervalCases
import Mathlib.Tactic.SplitIfs

namespace CourtDocket

/-- Whether the calendar has the date, in whatever year. -/
def Date.IsCivil (d : Date) : Prop :=
  1 ≤ d.month ∧ d.month ≤ 12 ∧ 1 ≤ d.day ∧ d.day ≤ Date.daysInMonth d.year d.month

/-- A date is valid just when it is civil and its year is in the range. -/
theorem Date.isValid_iff {d : Date} :
    d.isValid = true ↔ -262143 ≤ d.year ∧ d.year ≤ 262142 ∧ d.IsCivil := by
  simp only [isValid, IsCivil, decide_eq_true_eq]

/-- **A day by its place in the years that start in March.**  All counts are from zero. -/
structure MarchDay where
  /-- The era of four hundred years. -/
  era : ℤ
  /-- The century of the era. -/
  century : ℤ
  /-- The cycle of four years of the century. -/
  cycle : ℤ
  /-- The year of the cycle. -/
  year : ℤ
  /-- The month of the year, March being zero. -/
  month : ℤ
  /-- The day of the month. -/
  day : ℤ
  /-- An era has four centuries. -/
  century_range : 0 ≤ century ∧ century ≤ 3
  /-- A century has twenty-five cycles. -/
  cycle_range : 0 ≤ cycle ∧ cycle ≤ 24
  /-- A cycle has four years. -/
  year_range : 0 ≤ year ∧ year ≤ 3
  /-- A year has twelve months. -/
  month_range : 0 ≤ month ∧ month ≤ 11
  /-- The days of a month come before those of the next one. -/
  day_range : 0 ≤ day ∧ (153 * month + 2) / 5 + day < (153 * month + 155) / 5
  /-- The leap day is the last day of a cycle, and of a century only when it ends an era. -/
  leap : (153 * month + 2) / 5 + day < 365 ∨
    (153 * month + 2) / 5 + day = 365 ∧ year = 3 ∧ (cycle = 24 → century = 3)

namespace MarchDay

/-- The day of the year. -/
def dayOfYear (m : MarchDay) : ℤ :=
  (153 * m.month + 2) / 5 + m.day

/-- The year of the era. -/
def yearOfEra (m : MarchDay) : ℤ :=
  100 * m.century + 4 * m.cycle + m.year

/-- The day of the era. -/
def dayOfEra (m : MarchDay) : ℤ :=
  36524 * m.century + 1461 * m.cycle + 365 * m.year + m.dayOfYear

/-- The number of the day, counted from 1970-01-01. -/
def number (m : MarchDay) : ℤ :=
  146097 * m.era + m.dayOfEra - 719468

/-- The date of the day: January and February belong to the next year. -/
def date (m : MarchDay) : Date where
  year := 400 * m.era + m.yearOfEra + if m.month < 10 then 0 else 1
  month := (if m.month < 10 then m.month + 3 else m.month - 9).toNat
  day := (m.day + 1).toNat

variable (m : MarchDay)

/-- **The date of a day has the day's number.** -/
theorem toDays_date : m.date.toDays = m.number := by
  obtain ⟨era, c, q, k, p, d, hc, hq, hk, hp, hd, hleap⟩ := m
  simp only [date, Date.toDays, number, dayOfEra, dayOfYear, yearOfEra]
  have hday : ((d + 1).toNat : ℤ) = d + 1 := by omega
  by_cases h : p < 10
  · have hmonth : ((p + 3).toNat : ℤ) = p + 3 := by omega
    have hlate : ¬ (p + 3).toNat ≤ 2 := by omega
    have hp : (p + 3 + 9) % 12 = p := by omega
    rw [if_pos h, if_pos h, if_neg hlate, hmonth, hday, hp]
    omega
  · have hmonth : ((p - 9).toNat : ℤ) = p - 9 := by omega
    have hearly : (p - 9).toNat ≤ 2 := by omega
    have hp : (p - 9 + 9) % 12 = p := by omega
    rw [if_neg h, if_neg h, if_pos hearly, hmonth, hday, hp]
    omega

/-- The date of a day is in the calendar. -/
theorem isCivil_date : m.date.IsCivil := by
  obtain ⟨era, c, q, k, p, d, hc, hq, hk, hp, hd, hleap⟩ := m
  simp only [Date.IsCivil, date, yearOfEra, Date.daysInMonth, Date.isLeapYear]
  obtain ⟨hp₀, hp₁⟩ := hp
  interval_cases p <;> simp <;> omega

/-- The days of an era are those of four hundred years. -/
theorem dayOfEra_range : 0 ≤ m.dayOfEra ∧ m.dayOfEra < 146097 := by
  obtain ⟨era, c, q, k, p, d, hc, hq, hk, hp, hd, hleap⟩ := m
  simp only [dayOfEra, dayOfYear]
  omega

/-- The day of an era gives the year: leaving out one day of each cycle, but for one day of each
century, and the last day of the era, makes all years as long. -/
theorem yearOfEra_eq :
    (m.dayOfEra - m.dayOfEra / 1460 + m.dayOfEra / 36524 - m.dayOfEra / 146096) / 365 =
      m.yearOfEra := by
  obtain ⟨era, c, q, k, p, d, hc, hq, hk, hp, hd, hleap⟩ := m
  simp only [dayOfEra, dayOfYear, yearOfEra]
  generalize hr : (153 * p + 2) / 5 + d = r at hleap ⊢
  generalize he : 36524 * c + 1461 * q + 365 * k + r = e
  have hr₀ : 0 ≤ r := by omega
  have hcentury : e / 36524 - e / 146096 = c := by
    by_cases hlast : e = 146096
    · omega
    · have hquotient : e / 36524 = c := by omega
      omega
  -- in the last year of a cycle its leap day may have been left out already
  by_cases hcarry : 1460 ≤ 24 * c + q + 365 * k + r
  · have hcycle : e / 1460 = 25 * c + q + 1 := by omega
    omega
  · have hcycle : e / 1460 = 25 * c + q := by omega
    omega

/-- The days before a year, taken from those of the era, leave the day of the year. -/
theorem dayOfYear_eq :
    m.dayOfEra - (365 * m.yearOfEra + m.yearOfEra / 4 - m.yearOfEra / 100) = m.dayOfYear := by
  obtain ⟨era, c, q, k, p, d, hc, hq, hk, hp, hd, hleap⟩ := m
  simp only [dayOfEra, dayOfYear, yearOfEra]
  omega

/-- The month is found from the day of the year. -/
theorem month_eq : (5 * m.dayOfYear + 2) / 153 = m.month := by
  obtain ⟨era, c, q, k, p, d, hc, hq, hk, hp, hd, hleap⟩ := m
  simp only [dayOfYear]
  omega

/-- **The number of a day has the day's date.** -/
theorem ofDays_number : Date.ofDays m.number = m.date := by
  have hera := m.dayOfEra_range
  have hmonth := m.month_range
  have hshift : m.number + 719468 = 146097 * m.era + m.dayOfEra := by
    rw [number]
    omega
  have hquotient : (146097 * m.era + m.dayOfEra) / 146097 = m.era := by omega
  have hrest : (146097 * m.era + m.dayOfEra) % 146097 = m.dayOfEra := by omega
  have hday : m.dayOfYear - (153 * m.month + 2) / 5 = m.day := by
    rw [dayOfYear]
    omega
  simp only [Date.ofDays, hshift, hquotient, hrest, yearOfEra_eq, dayOfYear_eq, month_eq, hday,
    date]
  congr 1
  split_ifs <;> omega

/-- Every number is that of a day. -/
theorem exists_number (n : ℤ) : ∃ m : MarchDay, m.number = n := by
  obtain ⟨e, he⟩ : ∃ e, e = (n + 719468) % 146097 := ⟨_, rfl⟩
  -- the leap days that end an era or a cycle are taken first, as dividing would give them to the
  -- next century or year
  obtain ⟨c, q, k, r, hsum, hc, hq, hk, hr, hleap⟩ : ∃ c q k r : ℤ,
      e = 36524 * c + 1461 * q + 365 * k + r ∧ (0 ≤ c ∧ c ≤ 3) ∧ (0 ≤ q ∧ q ≤ 24) ∧
        (0 ≤ k ∧ k ≤ 3) ∧ (0 ≤ r ∧ r ≤ 365) ∧
        (r < 365 ∨ r = 365 ∧ k = 3 ∧ (q = 24 → c = 3)) := by
    by_cases hera : e = 146096
    · exact ⟨3, 24, 3, 365, by omega, by omega, by omega, by omega, by omega, by omega⟩
    · by_cases hcycle : e % 36524 % 1461 = 1460
      · exact ⟨e / 36524, e % 36524 / 1461, 3, 365, by omega, by omega, by omega, by omega,
          by omega, by omega⟩
      · exact ⟨e / 36524, e % 36524 / 1461, e % 36524 % 1461 / 365, e % 36524 % 1461 % 365,
          by omega, by omega, by omega, by omega, by omega, by omega⟩
  obtain ⟨p, d, hsplit, hp, hd⟩ : ∃ p d : ℤ, (153 * p + 2) / 5 + d = r ∧ (0 ≤ p ∧ p ≤ 11) ∧
      0 ≤ d ∧ (153 * p + 2) / 5 + d < (153 * p + 155) / 5 :=
    ⟨(5 * r + 2) / 153, r - (153 * ((5 * r + 2) / 153) + 2) / 5, by omega, by omega, by omega,
      by omega⟩
  refine ⟨⟨(n + 719468) / 146097, c, q, k, p, d, hc, hq, hk, hp, hd, hsplit ▸ hleap⟩, ?_⟩
  simp only [number, dayOfEra, dayOfYear]
  omega

/-- Every date of the calendar is that of a day. -/
theorem exists_date {d : Date} (h : d.IsCivil) : ∃ m : MarchDay, m.date = d := by
  obtain ⟨year, month, day⟩ := d
  obtain ⟨hmonth₀, hmonth₁, hday₀, hday₁⟩ := h
  simp only at hmonth₀ hmonth₁ hday₀ hday₁
  obtain ⟨y, hy⟩ : ∃ y : ℤ, y = if month ≤ 2 then year - 1 else year := ⟨_, rfl⟩
  obtain ⟨p, hp⟩ : ∃ p : ℤ, p = if month ≤ 2 then (month : ℤ) + 9 else month - 3 := ⟨_, rfl⟩
  have hday : (153 * p + 2) / 5 + (day - 1) < (153 * p + 155) / 5 ∧
      ((153 * p + 2) / 5 + (day - 1) < 365 ∨ (153 * p + 2) / 5 + (day - 1) = 365 ∧
        y % 4 = 3 ∧ (y % 100 / 4 = 24 → y % 400 / 100 = 3)) := by
    simp only [Date.daysInMonth, Date.isLeapYear] at hday₁
    interval_cases month <;> simp at hday₁ hy hp <;> (try split_ifs at hday₁) <;> omega
  have hcentury : y % 400 / 100 = y / 100 - 4 * (y / 400) := by omega
  have hcycle : y % 100 / 4 = y / 4 - 25 * (y / 100) := by omega
  refine ⟨⟨y / 400, y % 400 / 100, y % 100 / 4, y % 4, p, day - 1, by omega, by omega, by omega,
    by omega, ⟨by omega, hday.1⟩, hday.2⟩, ?_⟩
  simp only [date, yearOfEra, Date.mk.injEq, hcentury, hcycle]
  split_ifs at hy hp ⊢ <;> omega

end MarchDay

namespace Date

/-- **The date of a number has that number.** -/
theorem toDays_ofDays (n : ℤ) : (ofDays n).toDays = n := by
  obtain ⟨m, rfl⟩ := MarchDay.exists_number n
  rw [MarchDay.ofDays_number, MarchDay.toDays_date]

/-- **The number of a date of the calendar has that date.** -/
theorem ofDays_toDays {d : Date} (h : d.IsCivil) : ofDays d.toDays = d := by
  obtain ⟨m, rfl⟩ := MarchDay.exists_date h
  rw [MarchDay.toDays_date, MarchDay.ofDays_number]

/-- Every number has a date of the calendar. -/
theorem isCivil_ofDays (n : ℤ) : (ofDays n).IsCivil := by
  obtain ⟨m, rfl⟩ := MarchDay.exists_number n
  rw [MarchDay.ofDays_number]
  exact m.isCivil_date

/-- **The calendar has one date for each number.** -/
theorem eq_ofDays_iff {d : Date} {n : ℤ} : d = ofDays n ↔ d.IsCivil ∧ d.toDays = n := by
  constructor
  · rintro rfl
    exact ⟨isCivil_ofDays n, toDays_ofDays n⟩
  · rintro ⟨hcivil, rfl⟩
    exact (ofDays_toDays hcivil).symm

/-- The number of the first of January, by the year before: its year of three hundred and sixty-five
days and the leap days up to it. -/
theorem toDays_january (y : ℤ) : toDays ⟨y, 1, 1⟩ =
    365 * (y - 1) + (y - 1) / 4 - (y - 1) / 100 + (y - 1) / 400 - 719162 := by
  simp only [toDays]
  omega

/-- The first day of a year has a smaller number than that of a later one. -/
theorem toDays_january_lt {x y : ℤ} (h : x < y) : toDays ⟨x, 1, 1⟩ + 365 ≤ toDays ⟨y, 1, 1⟩ := by
  rw [toDays_january, toDays_january]
  have hx : (x - 1) / 100 = (x - 1) / 4 / 25 := by omega
  have hy : (y - 1) / 100 = (y - 1) / 4 / 25 := by omega
  omega

/-- The days of a year come before the next one begins. -/
theorem toDays_lt_january {d : Date} (h : d.IsCivil) :
    toDays ⟨d.year, 1, 1⟩ ≤ d.toDays ∧ d.toDays < toDays ⟨d.year + 1, 1, 1⟩ := by
  obtain ⟨year, month, day⟩ := d
  obtain ⟨hmonth₀, hmonth₁, hday₀, hday₁⟩ := h
  simp only [daysInMonth, isLeapYear] at hmonth₀ hmonth₁ hday₀ hday₁
  rw [toDays_january, toDays_january]
  interval_cases month <;> simp [toDays] at hday₁ ⊢ <;> (try split_ifs at hday₁) <;> omega

/-- **A year begins on its first of January.** -/
theorem le_year_ofDays_iff {y n : ℤ} : y ≤ (ofDays n).year ↔ toDays ⟨y, 1, 1⟩ ≤ n := by
  have hcivil := isCivil_ofDays n
  obtain ⟨hbegin, hend⟩ := toDays_lt_january hcivil
  rw [toDays_ofDays] at hbegin hend
  constructor
  · intro h
    rcases h.lt_or_eq with hlt | rfl
    · have hjanuary := toDays_january_lt hlt
      omega
    · exact hbegin
  · intro h
    by_contra hlt
    rcases (show (ofDays n).year + 1 ≤ y by omega).lt_or_eq with hlt | rfl
    · have hjanuary := toDays_january_lt hlt
      omega
    · omega

end Date
end CourtDocket
