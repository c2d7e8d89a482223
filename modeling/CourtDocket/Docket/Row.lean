/-
# The rows of the docket

The component `row` of `docket-view`, and of its component `projection` what makes a row:
`schedule_row`, `open_defence_row`, `claim`, `case_countdown`, `start_countdown` and `heading`; §4.5
and §10.6 (3) of the specification.

What is shown of an entry at a given time: who has the seat of the defence, the countdown, how the
starting time breaks the policy, and the votes.

The countdown of an entry depends on its status:

| status | ends | span |
| --- | --- | --- |
| being heard | one hearing after its effective time | one hearing |
| to be heard, or a call for a defence | when it is to be heard | from filing, else from now |
| concluded | none | none |

An entry whose time is unknown has no countdown either.
-/

import CourtDocket.Countdown.State
import CourtDocket.Entry.Case
import CourtDocket.Entry.OpenDefence
import CourtDocket.Policy
import CourtDocket.Settings.Basic
import CourtDocket.Votes

namespace CourtDocket

/-- What the rows depend on beside the entries. -/
structure Viewpoint where
  /-- The settings of the view. -/
  settings : Settings
  /-- The clock. -/
  now : Int64
  /-- The live counts. -/
  live : LiveVotes

/-- A row of the schedule. -/
structure ScheduleRow where
  /-- The id of the case. -/
  id : String
  /-- The bucket of the case. -/
  bucket : Bucket
  /-- How far the case has come. -/
  status : CaseStatus
  /-- What the row is headed by. -/
  heading : String
  /-- What the case is about. -/
  summary : String
  /-- Who prosecutes. -/
  prosecution : String
  /-- The label of the defendant. -/
  defendantLabel : String
  /-- The label of the defence. -/
  defenceLabel : String
  /-- Who has the seat of the defence. -/
  seat : Seat
  /-- The votes. -/
  votes : VoteView
  /-- The countdown. -/
  countdown : Option Countdown
  /-- How the starting time breaks the policy. -/
  policy : PolicyFlags
  /-- When the case is to be heard. -/
  scheduledFor : Option String
  /-- The tags of the case. -/
  tags : List String
  deriving DecidableEq

/-- A row of the open defences. -/
structure OpenDefenceRow where
  /-- The id of the case. -/
  caseId : String
  /-- Who prosecutes. -/
  prosecution : String
  /-- The label of the defendant. -/
  defendantLabel : String
  /-- Who has the seat of the defence. -/
  seat : Seat
  /-- The countdown. -/
  countdown : Option Countdown
  /-- How the starting time breaks the policy. -/
  policy : PolicyFlags
  /-- When the case is to be heard. -/
  scheduledFor : Option String
  /-- When the case was filed. -/
  filedAt : Option String
  /-- The tags of the case. -/
  tags : List String
  deriving DecidableEq

namespace Viewpoint

/-- The countdown to a start, over the time since `origin`, else from now on. -/
def startCountdown (vp : Viewpoint) (start : Timestamp) (origin : Option Timestamp) : Countdown :=
  let stop := start.epochMillis
  let begin := (origin.map Timestamp.epochMillis).getD vp.now
  .build vp.now stop (subSat stop begin) vp.settings.ringCircumference

/-- The countdown of a hearing that has begun. -/
def sessionCountdown (vp : Viewpoint) (start : Timestamp) : Countdown :=
  let session := vp.settings.hearingSession
  .build vp.now (addSat start.epochMillis session) session vp.settings.ringCircumference

/-- Who has the seat of the defence. -/
def seat (vp : Viewpoint) (defence defendant : Option String) (filed : Option Timestamp) : Seat :=
  .resolve vp.settings.reservationWindow defence defendant filed vp.now

end Viewpoint

namespace CaseEntry

/-- What the row of a case is headed by: its title, else its summary, else its id. -/
def heading (e : CaseEntry) : String :=
  (e.title.or (Text.nonBlank (some e.summary))).getD e.id

/-- Who has the seat of the defence. -/
def seat (vp : Viewpoint) (e : CaseEntry) : Seat :=
  vp.seat e.defence e.defendant e.createdAt.time?

/-- The countdown of a case. -/
def countdown (vp : Viewpoint) (e : CaseEntry) : Option Countdown :=
  if e.status.isConcluded then none
  else if e.status.isLive then e.effectiveTime.map vp.sessionCountdown
  else e.scheduledFor.time?.map fun start => vp.startCountdown start e.createdAt.time?

/-- The row of a case. -/
def row (vp : Viewpoint) (e : CaseEntry) : ScheduleRow :=
  { id := e.id
    bucket := e.bucket
    status := e.status
    heading := e.heading
    summary := e.summary
    prosecution := e.prosecution
    defendantLabel := partyLabel e.defendant
    defenceLabel := CourtDocket.defenceLabel e.defence
    seat := e.seat vp
    votes := .build e.id e.votes vp.live
    countdown := e.countdown vp
    policy := vp.settings.policy.classify e.scheduledFor.time? vp.now
    scheduledFor := e.scheduledFor.time?.map Timestamp.isoText
    tags := e.tags }

end CaseEntry

namespace OpenDefenceEntry

/-- Who has the seat of the defence. -/
def seat (vp : Viewpoint) (e : OpenDefenceEntry) : Seat :=
  vp.seat e.defence e.defendant e.filedAt.time?

/-- The row of a call for a defence. -/
def row (vp : Viewpoint) (e : OpenDefenceEntry) : OpenDefenceRow :=
  { caseId := e.caseId
    prosecution := e.prosecution
    defendantLabel := partyLabel e.defendant
    seat := e.seat vp
    countdown := e.scheduledFor.time?.map fun start => vp.startCountdown start e.filedAt.time?
    policy := vp.settings.policy.classify e.scheduledFor.time? vp.now
    scheduledFor := e.scheduledFor.time?.map Timestamp.isoText
    filedAt := e.filedAt.time?.map Timestamp.isoText
    tags := e.tags }

end OpenDefenceEntry

/-- The members of a row's document that show the seat of the defence. -/
def seatMembers (s : Seat) : List (String × Json) :=
  [("claimStatus", .string s.status.name), ("claimable", .bool s.status.isClaimable),
    ("reservedUntilMs", .ofOption .count s.reservedUntil),
    ("claimBadge", .string s.status.badge)]

/-- The members of a row's document that show the policy. -/
def policyMembers (p : PolicyFlags) : List (String × Json) :=
  [("outOfPolicyWindow", .bool p.outOfWindow), ("belowPolicyFloor", .bool p.belowFloor)]

/-- The document of a row of the schedule. -/
def ScheduleRow.toJson (r : ScheduleRow) : Json :=
  .object <|
    [("id", .string r.id), ("bucket", .string r.bucket.name), ("status", .string r.status.name),
      ("heading", .string r.heading), ("summary", .string r.summary),
      ("prosecutionAgentId", .string r.prosecution),
      ("defendantLabel", .string r.defendantLabel), ("defenceLabel", .string r.defenceLabel)] ++
    seatMembers r.seat ++
    [("votes", r.votes.toJson), ("countdown", .ofOption Countdown.toJson r.countdown)] ++
    policyMembers r.policy ++
    [("scheduledForIso", textJson r.scheduledFor), ("tags", .strings r.tags)]

/-- The document of a row of the open defences. -/
def OpenDefenceRow.toJson (r : OpenDefenceRow) : Json :=
  .object <|
    [("caseId", .string r.caseId), ("prosecutionAgentId", .string r.prosecution),
      ("defendantLabel", .string r.defendantLabel)] ++
    seatMembers r.seat ++
    [("countdown", .ofOption Countdown.toJson r.countdown)] ++
    policyMembers r.policy ++
    [("scheduledForIso", textJson r.scheduledFor), ("filedAtIso", textJson r.filedAt),
      ("tags", .strings r.tags)]

end CourtDocket
