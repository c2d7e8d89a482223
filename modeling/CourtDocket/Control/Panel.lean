/-
# The settings of the two panels

`ScheduleControls` and `OpenDefenceControls` of the component `controls` of `docket-view`, §6 of the
specification.

The schedule can be filtered by bucket and by a free text, and ordered by time.  The open
defences can be filtered by a free text, a tag, a starting time and the state of the seat, and
ordered by time.  In a document each setting that is left out has its widest value.
-/

import CourtDocket.Control.Choice
import CourtDocket.Json.Record
import CourtDocket.Json.Basic

namespace CourtDocket

/-- The settings of the schedule. -/
structure ScheduleControls where
  /-- The buckets that are shown. -/
  filter : BucketFilter := .all
  /-- The direction of time. -/
  order : TimeOrder := .ascending
  /-- The text that is looked for. -/
  query : String := ""
  deriving DecidableEq, Repr, Inhabited

/-- The settings of the open defences. -/
structure OpenDefenceControls where
  /-- The text that is looked for. -/
  query : String := ""
  /-- The tag that is looked for. -/
  tag : String := ""
  /-- The states of the seat that are shown. -/
  status : SeatFilter := .all
  /-- The direction of time. -/
  order : TimeOrder := .ascending
  /-- The starting times that are shown. -/
  window : StartWindow := .anyTime
  deriving DecidableEq, Repr, Inhabited

open Json

/-- A setting that is one of several words. -/
def choiceField {α : Type} (name : String) (fallback : α) (words : List (String × α)) :
    RecordField α :=
  .defaulted name fallback (Reader.choice words)

/-- A setting that is a text. -/
def textField (name : String) : RecordField String :=
  .defaulted name "" Reader.string

namespace ScheduleControls

/-- The document of the settings. -/
def toJson (c : ScheduleControls) : Json :=
  .object [("filter", .string c.filter.name), ("sort", .string c.order.scheduleName),
    ("query", .string c.query)]

/-- The field `filter`. -/
def filterField : RecordField BucketFilter := choiceField "filter" .all BucketFilter.words

/-- The field `sort`. -/
def orderField : RecordField TimeOrder := choiceField "sort" .ascending TimeOrder.scheduleWords

/-- The field `query`. -/
def queryField : RecordField String := textField "query"

/-- How the settings are read. -/
def record : Record ScheduleControls where
  name := "ScheduleControls"
  slots := [filterField.slot, orderField.slot, queryField.slot]
  build := fun node? => do
    pure { filter := ← filterField.take node?, order := ← orderField.take node?,
           query := ← queryField.take node? }

end ScheduleControls

namespace OpenDefenceControls

/-- The document of the settings. -/
def toJson (c : OpenDefenceControls) : Json :=
  .object [("query", .string c.query), ("tag", .string c.tag), ("status", .string c.status.name),
    ("timeSort", .string c.order.startName), ("startWindow", .string c.window.name)]

/-- The field `query`. -/
def queryField : RecordField String := textField "query"

/-- The field `tag`. -/
def tagField : RecordField String := textField "tag"

/-- The field `status`. -/
def statusField : RecordField SeatFilter := choiceField "status" .all SeatFilter.words

/-- The field `timeSort`. -/
def orderField : RecordField TimeOrder :=
  choiceField "timeSort" .ascending TimeOrder.startWords

/-- The field `startWindow`. -/
def windowField : RecordField StartWindow :=
  choiceField "startWindow" .anyTime StartWindow.words

/-- How the settings are read. -/
def record : Record OpenDefenceControls where
  name := "OpenDefenceControls"
  slots := [queryField.slot, tagField.slot, statusField.slot, orderField.slot, windowField.slot]
  build := fun node? => do
    pure { query := ← queryField.take node?, tag := ← tagField.take node?,
           status := ← statusField.take node?, order := ← orderField.take node?,
           window := ← windowField.take node? }

end OpenDefenceControls
end CourtDocket
