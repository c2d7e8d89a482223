/-
# The three states of a defence seat

`ClaimStatus` of the component `claim` of `docket-view`, §4.3 of the specification (ClaimResolver).

A seat is open to volunteers, reserved for the defendant, or taken by whoever defends.
-/

import CourtDocket.Text.Vocabulary

namespace CourtDocket

/-- The state of a defence seat. -/
inductive SeatStatus where
  /-- Anyone may volunteer. -/
  | vacant
  /-- The defendant has the first claim. -/
  | reserved
  /-- Someone defends. -/
  | taken
  deriving DecidableEq, Repr

namespace SeatStatus

/-- The word for a state. -/
def name : SeatStatus → String
  | vacant => "open"
  | reserved => "reserved"
  | taken => "taken"

/-- The label shown for a state. -/
def badge : SeatStatus → String
  | vacant => "Open"
  | reserved => "Reserved"
  | taken => "Taken"

/-- Whether a volunteer may claim the seat. -/
def isClaimable : SeatStatus → Bool
  | vacant => true
  | _ => false

/-- The words for the states. -/
def vocabulary : Vocabulary SeatStatus :=
  ⟨"claim status", [("open", vacant), ("reserved", reserved), ("taken", taken)]⟩

end SeatStatus
end CourtDocket
