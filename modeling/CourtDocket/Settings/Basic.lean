/-
# The settings of the view

`ViewConfig` and its defaults, with `policy_window` and `reservation_policy`, of the component
`config` of `docket-view`, §10.4 of the specification.

The bounds of the policy, how long a seat stays reserved, the circumference of the countdown rings
and the length of a hearing.  All spans are in milliseconds.
-/

import CourtDocket.Json.Basic
import CourtDocket.Policy

namespace CourtDocket

/-- The settings of the view. -/
structure Settings where
  /-- The longest time to a hearing. -/
  policyHorizon : Int64 := 30 * millisPerDay
  /-- The shortest time to a hearing. -/
  policyFloor : Int64 := 7 * millisPerDay
  /-- How long a seat stays reserved after the filing of the case; without end if there is none. -/
  reservationWindow : Option Int64 := some (24 * millisPerHour)
  /-- The circumference of the ring around a countdown. -/
  ringCircumference : Binary64 := .ofDecimal false 3267256359733385 (-13)
  /-- The length of a hearing. -/
  hearingSession : Int64 := 60 * millisPerMinute
  deriving DecidableEq

namespace Settings

instance : Inhabited Settings := ⟨{}⟩

/-- The bounds of the policy. -/
def policy (s : Settings) : PolicyWindow :=
  { horizon := s.policyHorizon, floor := s.policyFloor }

/-- The settings as a JSON document. -/
def toJson (s : Settings) : Json :=
  .object [("policy_horizon_ms", .count s.policyHorizon),
    ("policy_floor_ms", .count s.policyFloor),
    ("reservation_window_ms", .ofOption .count s.reservationWindow),
    ("ring_circumference", .float s.ringCircumference),
    ("hearing_session_ms", .count s.hearingSession)]

end Settings
end CourtDocket
