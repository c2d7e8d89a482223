/-
# Labels of durations

`format_duration_label` of the component `countdown` of `docket-view`, §4.1 of the specification
(TimeEngine).

A duration is shown in whole minutes, rounded down: `45m` below an hour, `1h 05m` from an hour on,
the minutes then in two digits.  What is over is `Due`.
-/

import CourtDocket.Time.Span
import CourtDocket.Time.Timestamp

namespace CourtDocket

/-- The label of what is over. -/
def dueLabel : String := "Due"

/-- The label of a whole number of minutes. -/
def minutesLabel (minutes : Nat) : String :=
  String.ofList <|
    if minutes / 60 = 0 then FloatLayout.decimalDigits minutes ++ ['m']
    else
      FloatLayout.decimalDigits (minutes / 60) ++ ['h', ' '] ++
        Timestamp.padded 2 (minutes % 60) ++ ['m']

/-- The label of a duration in milliseconds. -/
def durationLabel (ms : Int64) : String :=
  if ms ≤ 0 then dueLabel else minutesLabel (ms.toInt / millisPerMinute.toInt).toNat

end CourtDocket
