/-
# Snapshots of the docket

`DocketSnapshot` and `ScheduleSnapshot` of the component `snapshot` of `docket-view`, with
`from_json_str` and `at`; §6 of the specification.

Everything that the docket shows at one time: the cases in two buckets, the calls for a defence,
the settings of the panels, the live counts and the clock.  Only the clock is required.
-/

import CourtDocket.Control.Panel
import CourtDocket.Record.LiveVotes
import CourtDocket.Record.OpenDefence

namespace CourtDocket

/-- The cases of the docket. -/
structure Schedule where
  /-- The cases being heard. -/
  active : List CaseRecord := []
  /-- The cases to be heard. -/
  scheduled : List CaseRecord := []
  deriving DecidableEq, Repr, Inhabited

/-- A snapshot of the docket. -/
structure Snapshot where
  /-- The clock, in milliseconds since the epoch. -/
  now : Int64
  /-- The cases. -/
  schedule : Schedule := {}
  /-- The calls for a defence. -/
  openDefences : List OpenDefenceRecord := []
  /-- The settings of the schedule. -/
  scheduleControls : ScheduleControls := {}
  /-- The settings of the open defences. -/
  openDefenceControls : OpenDefenceControls := {}
  /-- The live counts. -/
  live : LiveVotes := .empty
  deriving DecidableEq, Repr

open Json

namespace Schedule

/-- The document of the cases. -/
def toJson (s : Schedule) : Json :=
  .object [("active", .array (s.active.map CaseRecord.toJson)),
    ("scheduled", .array (s.scheduled.map CaseRecord.toJson))]

/-- The field `active`. -/
def activeField : RecordField (List CaseRecord) :=
  .defaulted "active" [] (Reader.list CaseRecord.record.read)

/-- The field `scheduled`. -/
def scheduledField : RecordField (List CaseRecord) :=
  .defaulted "scheduled" [] (Reader.list CaseRecord.record.read)

/-- How the cases are read. -/
def record : Record Schedule where
  name := "ScheduleSnapshot"
  slots := [activeField.slot, scheduledField.slot]
  build := fun node? => do
    pure { active := ← activeField.take node?, scheduled := ← scheduledField.take node? }

end Schedule

namespace Snapshot

/-- The document of a snapshot. -/
def toJson (s : Snapshot) : Json :=
  .object [("nowMs", .count s.now), ("schedule", s.schedule.toJson),
    ("openDefenceCases", .array (s.openDefences.map OpenDefenceRecord.toJson)),
    ("scheduleControls", s.scheduleControls.toJson),
    ("openDefenceControls", s.openDefenceControls.toJson), ("liveVotes", s.live.toJson)]

/-- The field `nowMs`. -/
def nowField : RecordField Int64 := .required "nowMs" Reader.int64

/-- The field `schedule`. -/
def scheduleField : RecordField Schedule := .defaulted "schedule" {} Schedule.record.read

/-- The field `openDefenceCases`. -/
def openDefencesField : RecordField (List OpenDefenceRecord) :=
  .defaulted "openDefenceCases" [] (Reader.list OpenDefenceRecord.record.read)

/-- The field `scheduleControls`. -/
def scheduleControlsField : RecordField ScheduleControls :=
  .defaulted "scheduleControls" {} ScheduleControls.record.read

/-- The field `openDefenceControls`. -/
def openDefenceControlsField : RecordField OpenDefenceControls :=
  .defaulted "openDefenceControls" {} OpenDefenceControls.record.read

/-- The field `liveVotes`. -/
def liveField : RecordField LiveVotes := .defaulted "liveVotes" .empty LiveVotes.read

/-- How a snapshot is read. -/
def record : Record Snapshot where
  name := "DocketSnapshot"
  slots := [nowField.slot, scheduleField.slot, openDefencesField.slot,
    scheduleControlsField.slot, openDefenceControlsField.slot, liveField.slot]
  build := fun node? => do
    pure { now := ← nowField.take node?, schedule := ← scheduleField.take node?,
           openDefences := ← openDefencesField.take node?,
           scheduleControls := ← scheduleControlsField.take node?,
           openDefenceControls := ← openDefenceControlsField.take node?,
           live := ← liveField.take node? }

/-- Reads the document of a snapshot. -/
def parse (text : List Symbol) : Except ReadFault Snapshot :=
  Reader.document record.read text

/-- The same snapshot seen at another time. -/
def atTime (s : Snapshot) (now : Int64) : Snapshot :=
  { s with now }

end Snapshot
end CourtDocket
