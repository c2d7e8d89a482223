/-
# Countdowns

`CountdownState`, `compute_countdown_state` and `CountdownView` of the component `countdown` of
`docket-view`, §4.1 of the specification (TimeEngine).

A countdown runs over a span of time that ends at a given instant.  Its state says how many
milliseconds and which part of the span remain; a span that is not positive has elapsed.
-/

import CourtDocket.Countdown.Duration
import CourtDocket.Countdown.Ring
import CourtDocket.Json.Basic

namespace CourtDocket

/-- How far a countdown has run. -/
structure CountdownState where
  /-- The milliseconds that remain. -/
  remaining : Int64
  /-- The part of the span that remains. -/
  ratioRemaining : Binary64
  /-- The part of the span that has elapsed. -/
  ratioElapsed : Binary64
  deriving DecidableEq

namespace CountdownState

/-- The state of a countdown that is over. -/
def elapsed : CountdownState := ⟨0, .zero false, .one⟩

/-- The state at the time `now` of a countdown over `total` milliseconds that ends at `stop`. -/
def compute (now stop total : Int64) : CountdownState :=
  if total ≤ 0 then elapsed
  else
    let remaining := max (subSat stop now) 0
    let ratio := (Binary64.ofInt remaining.toInt / Binary64.ofInt total.toInt).clampUnit
    ⟨remaining, ratio, .one - ratio⟩

end CountdownState

/-- A countdown as it is shown. -/
structure Countdown where
  /-- When it ends. -/
  stop : Int64
  /-- How far it has run. -/
  state : CountdownState
  /-- The label of what remains. -/
  label : String
  /-- The dash offset of its ring. -/
  dashOffset : Binary64
  /-- The colour of its ring. -/
  colour : RingColour
  deriving DecidableEq

namespace Countdown

/-- The countdown at the time `now` over `total` milliseconds that end at `stop`, shown as a ring
of the given circumference. -/
def build (now stop total : Int64) (circumference : Binary64) : Countdown :=
  let state := CountdownState.compute now stop total
  { stop
    state
    label := durationLabel state.remaining
    dashOffset := CourtDocket.dashOffset circumference state.ratioRemaining
    colour := .ofRatio state.ratioRemaining }

/-- The document of a countdown. -/
def toJson (c : Countdown) : Json :=
  .object [("endAtMs", .count c.stop), ("remainingMs", .count c.state.remaining),
    ("ratioRemaining", .float c.state.ratioRemaining),
    ("ratioElapsed", .float c.state.ratioElapsed), ("label", .string c.label),
    ("dashOffset", .float c.dashOffset), ("colour", .string c.colour.text)]

end Countdown
end CourtDocket
