/-
# The policy window

The component `policy` of `docket-view`, §4.2 of the specification (PolicyWindowClassifier):
`PolicyWindow` with `is_beyond_horizon`, `is_below_floor` and `classify`.

A hearing should start neither too late nor too soon.  It is beyond the horizon when it starts
more than the horizon after now, and below the floor when it starts from now on but less than the
floor after now.  A hearing without a time, or one in the past, is neither.
-/

import CourtDocket.Time.Span
import CourtDocket.Time.Timestamp

namespace CourtDocket

/-- The bounds of the policy, in milliseconds from now. -/
structure PolicyWindow where
  /-- The longest time to the start. -/
  horizon : Int64 := 30 * millisPerDay
  /-- The shortest time to the start. -/
  floor : Int64 := 7 * millisPerDay
  deriving DecidableEq, Repr, Inhabited

/-- How a starting time breaks the policy. -/
structure PolicyFlags where
  /-- It is beyond the horizon. -/
  outOfWindow : Bool
  /-- It is below the floor. -/
  belowFloor : Bool
  deriving DecidableEq, Repr

/-- The milliseconds from now to an instant. -/
def millisUntil (t : Timestamp) (now : Int64) : Int64 :=
  subSat t.epochMillis now

namespace PolicyWindow

/-- Whether a starting time is beyond the horizon. -/
def isBeyondHorizon (w : PolicyWindow) (start : Option Timestamp) (now : Int64) : Bool :=
  start.any fun t => w.horizon < millisUntil t now

/-- Whether a starting time is below the floor. -/
def isBelowFloor (w : PolicyWindow) (start : Option Timestamp) (now : Int64) : Bool :=
  start.any fun t => 0 ≤ millisUntil t now && millisUntil t now < w.floor

/-- How a starting time breaks the policy. -/
def classify (w : PolicyWindow) (start : Option Timestamp) (now : Int64) : PolicyFlags :=
  ⟨w.isBeyondHorizon start now, w.isBelowFloor start now⟩

end PolicyWindow
end CourtDocket
