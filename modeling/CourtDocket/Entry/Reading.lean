/-
# Published times as they are read

`parse_field` of the component `normalize` of `docket-view`, §7 of the specification.

A published time is missing or blank, or a text that writes an instant, or one that does not.  For
ordering, countdowns and policy the last is as good as missing (`Reading.time?`), but it is worth
a warning (`Reading.malformed?`).
-/

import CourtDocket.Time.Spelling

namespace CourtDocket

/-- What was made of a published time. -/
inductive Reading where
  /-- There was none. -/
  | absent
  /-- The text writes no instant. -/
  | malformed (raw : String)
  /-- The text writes an instant. -/
  | known (time : Timestamp)
  deriving DecidableEq

namespace Reading

/-- Reads a published time. -/
def ofText : Option String → Reading
  | none => absent
  | some raw =>
    if Text.isBlank raw then absent
    else
      match Timestamp.parse raw with
      | .ok t => known t
      | .error _ => malformed raw

/-- The instant, if there is one. -/
def time? : Reading → Option Timestamp
  | known t => some t
  | _ => none

/-- The text that writes no instant, if there is one. -/
def malformed? : Reading → Option String
  | malformed raw => some raw
  | _ => none

end Reading
end CourtDocket
