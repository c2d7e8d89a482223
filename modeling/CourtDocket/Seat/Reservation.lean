/-
# Who has the seat of the defence

`resolve_claim_status`, `defence_label` and `ReservationPolicy` of the component `claim` of
`docket-view`, with `party_label` of its component `projection`; §4.3 and §10.6 (1) of the
specification.

A seat is taken when a defence is named.  Otherwise it is reserved for the defendant, if one is
named, for a time after the case was filed:

| time of filing | window | the reservation |
| --- | --- | --- |
| known | bounded | lapses when the clock reaches the filing time plus the window |
| known | unbounded | never lapses |
| unknown | any | never lapses |

A seat that is neither taken nor reserved is open.  A name made of white space names nobody.
-/

import CourtDocket.Seat.Status
import CourtDocket.Text.Blank
import CourtDocket.Time.Timestamp

namespace CourtDocket

/-- The label of a seat or a party that nobody fills. -/
def openDefenceLabel : String := "Open defence"

/-- The label of a party. -/
def partyLabel (name : Option String) : String :=
  name.getD openDefenceLabel

/-- The label of the defence. -/
def defenceLabel (defence : Option String) : String :=
  partyLabel (Text.nonBlank defence)

/-- Who has the seat of the defence. -/
inductive Seat where
  /-- The defence. -/
  | taken (defence : String)
  /-- The defendant, up to the deadline if there is one. -/
  | reserved (defendant : String) (deadline : Option Int64)
  /-- Nobody: the time of the defendant's claim is over. -/
  | lapsed (defendant : String) (deadline : Int64)
  /-- Nobody. -/
  | vacant
  deriving DecidableEq, Repr

namespace Seat

/-- When a reservation lapses. -/
def deadline? (window : Option Int64) (filed : Option Timestamp) : Option Int64 :=
  match window, filed with
  | some w, some t => some (addSat t.epochMillis w)
  | _, _ => none

/-- The seat of a case at a given time. -/
def resolve (window : Option Int64) (defence defendant : Option String)
    (filed : Option Timestamp) (now : Int64) : Seat :=
  match Text.nonBlank defence, Text.nonBlank defendant with
  | some a, _ => taken a
  | none, none => vacant
  | none, some d =>
    match deadline? window filed with
    | none => reserved d none
    | some t => if t ≤ now then lapsed d t else reserved d (some t)

/-- The state of a seat. -/
def status : Seat → SeatStatus
  | taken _ => .taken
  | reserved _ _ => .reserved
  | lapsed _ _ => .vacant
  | vacant => .vacant

/-- The end of the reservation, if there is one and it is bounded. -/
def reservedUntil : Seat → Option Int64
  | reserved _ deadline => deadline
  | _ => none

end Seat
end CourtDocket
