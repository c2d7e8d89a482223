/-
# Instants of the docket

`Timestamp` of `docket-core`, with `from_epoch_millis`, `epoch_millis`, `to_iso8601` and
`truncate_to_millis`; §10.6 (9) of the specification.

An instant is a second counted from 1970-01-01T00:00:00Z, leap seconds left out of the count, and
nanoseconds within it.  A leap second has no number: it is the second before it with a thousand
million nanoseconds or more.  The range is that of the calendar's years, from -262143 to 262142.

The docket works on whole milliseconds: `ofMillis?` makes such instants, `truncate` cuts to them,
and `isoText` shows them.
-/

import CourtDocket.Saturating
import CourtDocket.Time.Date
import CourtDocket.Number.FloatText

namespace CourtDocket

/-- A point in time. -/
structure Timestamp where
  /-- Whole seconds since the epoch. -/
  second : Int
  /-- Nanoseconds within the second; past the thousand million in a leap second. -/
  nano : Nat
  /-- The calendar's range. -/
  second_range : -8334601228800 ≤ second ∧ second ≤ 8210266876799
  /-- Less than two seconds. -/
  nano_lt : nano < 2000000000
  deriving DecidableEq

namespace Timestamp

/-- The instant of a second and the nanoseconds within it, if it is in the calendar's range. -/
def ofSeconds? (second : Int) (nano : Nat) : Option Timestamp :=
  if h : (-8334601228800 ≤ second ∧ second ≤ 8210266876799) ∧ nano < 2000000000 then
    some ⟨second, nano, h.1, h.2⟩
  else none

/-- The instant of a number of milliseconds since the epoch, if it is in the calendar's range. -/
def ofMillis? (ms : Int) : Option Timestamp :=
  ofSeconds? (ms / 1000) ((ms % 1000).toNat * 1000000)

/-- Whole milliseconds since the epoch; what is below a millisecond is cut off. -/
def millis (t : Timestamp) : Int :=
  t.second * 1000 + (t.nano / 1000000 : Nat)

/-- Whole milliseconds since the epoch as a 64-bit count. -/
def epochMillis (t : Timestamp) : Int64 :=
  Int64.ofInt t.millis

/-- The instant cut to whole milliseconds, itself if there is none. -/
def truncate (t : Timestamp) : Timestamp :=
  (ofMillis? t.millis).getD t

/-- The order of two instants in time. -/
def compare (a b : Timestamp) : Ordering :=
  if a.second < b.second then .lt
  else if b.second < a.second then .gt
  else Ord.compare a.nano b.nano

/-- A number in at least `width` digits. -/
def padded (width n : Nat) : List Char :=
  let ds := FloatLayout.decimalDigits n
  List.replicate (width - ds.length) '0' ++ ds

/-- A year: four digits, with a sign and at least four digits outside `0` to `9999`. -/
def yearText (year : Int) : List Char :=
  if 0 ≤ year ∧ year ≤ 9999 then padded 4 year.natAbs
  else (if year < 0 then '-' else '+') :: padded 4 year.natAbs

/-- Date and time of day up to the second, in UTC. -/
def civilText (t : Timestamp) : List Char :=
  let date := Date.ofDays (t.second / 86400)
  let s := (t.second % 86400).toNat
  let leap := if 1000000000 ≤ t.nano then 1 else 0
  yearText date.year ++ ['-'] ++ padded 2 date.month ++ ['-'] ++ padded 2 date.day ++ ['T'] ++
    padded 2 (s / 3600) ++ [':'] ++ padded 2 (s / 60 % 60) ++ [':'] ++ padded 2 (s % 60 + leap)

/-- The instant in UTC with three digits below the second. -/
def isoText (t : Timestamp) : String :=
  String.ofList (t.civilText ++ ['.'] ++ padded 3 (t.nano % 1000000000 / 1000000) ++ ['Z'])

/-- The instant in UTC with as many digits below the second as it needs, in groups of three. -/
def fullText (t : Timestamp) : String :=
  let n := t.nano % 1000000000
  let fraction :=
    if n = 0 then []
    else if n % 1000000 = 0 then '.' :: padded 3 (n / 1000000)
    else if n % 1000 = 0 then '.' :: padded 6 (n / 1000)
    else '.' :: padded 9 n
  String.ofList (t.civilText ++ fraction ++ ['Z'])

end Timestamp
end CourtDocket
