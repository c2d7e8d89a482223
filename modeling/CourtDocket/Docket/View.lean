/-
# The docket as it is shown

`project_docket`, `schedule_rows`, `DocketView` and `DocketSummary` of the component `projection` of
`docket-view`, with `select_schedule` and `select_open_defence` of the component `filter`; §4.5,
§10.6 (6) and §10.7 of the specification.

A panel shows the entries that its settings let through, ordered by time, a row for each.  The
schedule has a panel for each bucket, which is empty when the bucket is not chosen; the open
defences have one, whose rows are also chosen by the state of the seat.  The summary counts rows.
-/

import CourtDocket.Docket.Order
import CourtDocket.Docket.Row
import CourtDocket.Docket.Search
import CourtDocket.Record.Snapshot

namespace CourtDocket

/-- The docket as it is shown. -/
structure DocketView where
  /-- The clock. -/
  now : Int64
  /-- The cases being heard. -/
  active : List ScheduleRow
  /-- The cases to be heard. -/
  scheduled : List ScheduleRow
  /-- The calls for a defence. -/
  openDefence : List OpenDefenceRow
  deriving DecidableEq

/-- The entries of the schedule that the settings let through, in order. -/
def ScheduleControls.select (c : ScheduleControls) (es : List CaseEntry) : List CaseEntry :=
  sortByTime c.order CaseEntry.effectiveTime
    (es.filter fun e => matchesQuery e.searchText c.query)

/-- The calls for a defence that the query, the tag and the starting time let through, in
order. -/
def OpenDefenceControls.select (c : OpenDefenceControls) (now : Int64)
    (es : List OpenDefenceEntry) : List OpenDefenceEntry :=
  sortByTime c.order (fun e => e.scheduledFor.time?) <|
    es.filter fun e =>
      matchesQuery e.searchText c.query && matchesTag e.tags c.tag &&
        withinWindow e.scheduledFor.time? now c.window

namespace Snapshot

/-- What the rows depend on beside the entries. -/
def viewpoint (settings : Settings) (s : Snapshot) : Viewpoint :=
  { settings, now := s.now, live := s.live }

/-- The entries of a bucket, none when it is not chosen. -/
def bucketEntries (s : Snapshot) : Bucket → List CaseEntry
  | .active =>
    if s.scheduleControls.filter.includesActive then
      s.schedule.active.map (CaseEntry.ofRecord .active)
    else []
  | .scheduled =>
    if s.scheduleControls.filter.includesScheduled then
      s.schedule.scheduled.map (CaseEntry.ofRecord .scheduled)
    else []

/-- The entries shown of a bucket, in order. -/
def selectedCases (s : Snapshot) (b : Bucket) : List CaseEntry :=
  s.scheduleControls.select (s.bucketEntries b)

/-- The calls for a defence. -/
def openDefenceEntries (s : Snapshot) : List OpenDefenceEntry :=
  s.openDefences.map .ofRecord

/-- The calls for a defence that are shown unless the state of their seat is filtered out, in
order. -/
def selectedCalls (s : Snapshot) : List OpenDefenceEntry :=
  s.openDefenceControls.select s.now s.openDefenceEntries

/-- The rows of a bucket. -/
def bucketRows (settings : Settings) (s : Snapshot) (b : Bucket) : List ScheduleRow :=
  (s.selectedCases b).map (CaseEntry.row (s.viewpoint settings))

/-- The rows of the open defences. -/
def openDefenceRows (settings : Settings) (s : Snapshot) : List OpenDefenceRow :=
  (s.selectedCalls.map (OpenDefenceEntry.row (s.viewpoint settings))).filter fun r =>
    s.openDefenceControls.status.admits r.seat.status

/-- The docket of a snapshot. -/
def view (settings : Settings) (s : Snapshot) : DocketView :=
  { now := s.now
    active := s.bucketRows settings .active
    scheduled := s.bucketRows settings .scheduled
    openDefence := s.openDefenceRows settings }

end Snapshot

/-- The counts of a docket. -/
structure DocketSummary where
  /-- The rows of cases being heard. -/
  activeRows : Nat
  /-- The rows of cases to be heard. -/
  scheduledRows : Nat
  /-- The rows of calls for a defence. -/
  openDefenceRows : Nat
  /-- The rows of calls for a defence whose seat is open. -/
  claimableRows : Nat
  /-- The rows of any kind that are beyond the horizon. -/
  outOfPolicyRows : Nat
  deriving DecidableEq, Repr

namespace DocketView

/-- The counts of a docket. -/
def summary (v : DocketView) : DocketSummary :=
  { activeRows := v.active.length
    scheduledRows := v.scheduled.length
    openDefenceRows := v.openDefence.length
    claimableRows := v.openDefence.countP (·.seat.status.isClaimable)
    outOfPolicyRows := (v.active ++ v.scheduled).countP (·.policy.outOfWindow) +
      v.openDefence.countP (·.policy.outOfWindow) }

/-- The document of a docket. -/
def toJson (v : DocketView) : Json :=
  .object [("nowMs", .count v.now), ("active", .array (v.active.map ScheduleRow.toJson)),
    ("scheduled", .array (v.scheduled.map ScheduleRow.toJson)),
    ("openDefence", .array (v.openDefence.map OpenDefenceRow.toJson))]

end DocketView

/-- The document of the counts. -/
def DocketSummary.toJson (s : DocketSummary) : Json :=
  .object [("activeRows", .int s.activeRows), ("scheduledRows", .int s.scheduledRows),
    ("openDefenceRows", .int s.openDefenceRows), ("claimableRows", .int s.claimableRows),
    ("outOfPolicyRows", .int s.outOfPolicyRows)]

end CourtDocket
