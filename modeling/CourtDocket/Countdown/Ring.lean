/-
# The ring around a countdown

`ring_dash_offset`, `RingColour` and `ring_colour_from_ratio` of the component `countdown` of
`docket-view`, §4.1 and §10.6 (2) of the specification.

The ring is drawn as a dashed circle.  Its dash offset hides the part that has elapsed, and its
colour goes from red over orange to green with the part that remains:

| part that remains | colour |
| --- | --- |
| none | `#ef4444` |
| half | `#f59e0b` |
| all | `#22c55e` |

Between two of them every channel is interpolated and rounded to the nearest whole number.
-/

import CourtDocket.Number.Binary64

namespace CourtDocket

/-- A colour of three channels. -/
structure RingColour where
  /-- The red channel. -/
  red : UInt8
  /-- The green channel. -/
  green : UInt8
  /-- The blue channel. -/
  blue : UInt8
  deriving DecidableEq, Repr

namespace RingColour

/-- The colour of a full ring. -/
def full : RingColour := ⟨0x22, 0xc5, 0x5e⟩

/-- The colour of half a ring. -/
def middle : RingColour := ⟨0xf5, 0x9e, 0x0b⟩

/-- The colour of an empty ring. -/
def empty : RingColour := ⟨0xef, 0x44, 0x44⟩

/-- The value of a channel at a part of the way from one value to another. -/
def channelBetween (start stop : UInt8) (t : Binary64) : UInt8 :=
  let a := Binary64.ofInt start.toNat
  (a + (Binary64.ofInt stop.toNat - a) * t).toByte

/-- The colour at a part of the way from one colour to another. -/
def between (start stop : RingColour) (t : Binary64) : RingColour :=
  { red := channelBetween start.red stop.red t
    green := channelBetween start.green stop.green t
    blue := channelBetween start.blue stop.blue t }

/-- The colour of a ring of which the given part remains. -/
def ofRatio (ratio : Binary64) : RingColour :=
  let r := ratio.clampUnit
  if r.lt .half then between empty middle (r * .two)
  else between middle full ((r - .half) * .two)

/-- A channel in two hexadecimal digits. -/
def channelText (n : UInt8) : List Char :=
  [Nat.digitChar (n.toNat / 16), Nat.digitChar (n.toNat % 16)]

/-- The text of a colour: a number sign and two hexadecimal digits for each channel. -/
def text (c : RingColour) : String :=
  String.ofList ('#' :: (channelText c.red ++ channelText c.green ++ channelText c.blue))

end RingColour

/-- The dash offset of a ring of which the given part remains. -/
def dashOffset (circumference ratio : Binary64) : Binary64 :=
  circumference * (.one - ratio.clampUnit)

end CourtDocket
