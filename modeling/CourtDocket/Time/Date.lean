/-
# Civil dates and day numbers

The calendar under `Timestamp` of `docket-core`.

Dates of the proleptic Gregorian calendar, with a year zero, and their numbers counted from
1970-01-01.  Years are reckoned from the first of March, so that the leap day is the last day of
its year: month `p` of such a year starts at day `(153 · p + 2) / 5`, and four hundred years have
146097 days.
-/

namespace CourtDocket

/-- A year, a month and a day of the month. -/
structure Date where
  /-- The year; year zero precedes year one. -/
  year : Int
  /-- The month, from one. -/
  month : Nat
  /-- The day of the month, from one. -/
  day : Nat
  deriving DecidableEq, Repr

namespace Date

/-- Whether a year has a leap day. -/
def isLeapYear (year : Int) : Bool :=
  year % 4 = 0 ∧ (year % 100 ≠ 0 ∨ year % 400 = 0)

/-- The number of days of a month. -/
def daysInMonth (year : Int) (month : Nat) : Nat :=
  if month = 2 then (if isLeapYear year then 29 else 28)
  else if month = 4 ∨ month = 6 ∨ month = 9 ∨ month = 11 then 30
  else 31

/-- Whether the calendar has the date, within the years from -262143 to 262142. -/
def isValid (d : Date) : Bool :=
  -262143 ≤ d.year ∧ d.year ≤ 262142 ∧ 1 ≤ d.month ∧ d.month ≤ 12 ∧ 1 ≤ d.day ∧
    d.day ≤ daysInMonth d.year d.month

/-- The number of a date, counted from 1970-01-01. -/
def toDays (d : Date) : Int :=
  let y := if d.month ≤ 2 then d.year - 1 else d.year
  let p : Int := (d.month + 9) % 12
  365 * y + y / 4 - y / 100 + y / 400 + (153 * p + 2) / 5 + d.day - 1 - 719468

/-- The date with a given number. -/
def ofDays (n : Int) : Date :=
  let z := n + 719468
  let e := z % 146097
  let y := (e - e / 1460 + e / 36524 - e / 146096) / 365
  let r := e - (365 * y + y / 4 - y / 100)
  let p := (5 * r + 2) / 153
  let month := if p < 10 then p + 3 else p - 9
  { year := y + z / 146097 * 400 + (if month ≤ 2 then 1 else 0)
    month := month.toNat
    day := (r - (153 * p + 2) / 5 + 1).toNat }

example : toDays ⟨1970, 1, 1⟩ = 0 ∧ toDays ⟨2000, 2, 29⟩ = 11016 ∧ ofDays 11017 = ⟨2000, 3, 1⟩ ∧
    ofDays (-719528) = ⟨0, 1, 1⟩ := by decide

end Date
end CourtDocket
