/-
# Published cases

`CaseRecord` and `CaseStatus` of `docket-core`, §3 and §10.6 (10) of the specification; the
identifiers `CaseId` and `AgentId` are their texts.

A case as its publisher writes it.  Only its id and its status are required; all other fields may
be missing or `null`.  Times are kept as they were written.
-/

import CourtDocket.Record.VoteTally
import CourtDocket.Text.Vocabulary

namespace CourtDocket

/-- How far a case has come. -/
inductive CaseStatus where
  /-- It is to be heard. -/
  | scheduled
  /-- It is being heard. -/
  | active
  /-- It has been decided and sealed. -/
  | sealed
  /-- It has been closed. -/
  | closed
  deriving DecidableEq, Repr

namespace CaseStatus

/-- The word for a status. -/
def name : CaseStatus → String
  | scheduled => "scheduled"
  | active => "active"
  | sealed => "sealed"
  | closed => "closed"

/-- Whether the case is over. -/
def isConcluded : CaseStatus → Bool
  | sealed => true
  | closed => true
  | _ => false

/-- Whether the case is being heard. -/
def isLive (s : CaseStatus) : Bool :=
  s = active

/-- The words for the statuses. -/
def words : List (String × CaseStatus) :=
  namedWords name [scheduled, active, sealed, closed]

end CaseStatus

/-- A published case. -/
structure CaseRecord where
  /-- Its id. -/
  id : String
  /-- How far it has come. -/
  status : CaseStatus
  /-- When it is to be heard. -/
  scheduledFor : Option String := none
  /-- When it was filed. -/
  createdAt : Option String := none
  /-- Who prosecutes. -/
  prosecution : String := ""
  /-- Who is accused. -/
  defendant : Option String := none
  /-- Who defends. -/
  defence : Option String := none
  /-- The votes of the jury. -/
  votes : VoteTally := {}
  /-- What it is about. -/
  summary : String := ""
  /-- Its title. -/
  title : Option String := none
  /-- Its tags. -/
  tags : List String := []
  deriving DecidableEq, Repr

open Json

/-- The document of a text that may be missing. -/
def textJson (s : Option String) : Json :=
  .ofOption .string s

namespace CaseRecord

/-- The document of a case. -/
def toJson (c : CaseRecord) : Json :=
  .object [("id", .string c.id), ("status", .string c.status.name),
    ("scheduledForIso", textJson c.scheduledFor), ("createdAtIso", textJson c.createdAt),
    ("prosecutionAgentId", .string c.prosecution), ("defendantAgentId", textJson c.defendant),
    ("defenceAgentId", textJson c.defence), ("voteSummary", c.votes.toJson),
    ("summary", .string c.summary), ("caseTitle", textJson c.title), ("tags", .strings c.tags)]

/-- The field `id`. -/
def idField : RecordField String := .required "id" Reader.string

/-- The field `status`. -/
def statusField : RecordField CaseStatus := .required "status" (Reader.choice CaseStatus.words)

/-- The field `scheduledForIso`. -/
def scheduledForField : RecordField (Option String) := .optional "scheduledForIso" Reader.string

/-- The field `createdAtIso`. -/
def createdAtField : RecordField (Option String) := .optional "createdAtIso" Reader.string

/-- The field `prosecutionAgentId`. -/
def prosecutionField : RecordField String := .lenient "prosecutionAgentId" "" Reader.string

/-- The field `defendantAgentId`. -/
def defendantField : RecordField (Option String) := .optional "defendantAgentId" Reader.string

/-- The field `defenceAgentId`. -/
def defenceField : RecordField (Option String) := .optional "defenceAgentId" Reader.string

/-- The field `voteSummary`. -/
def votesField : RecordField VoteTally := .lenient "voteSummary" {} VoteTally.record.read

/-- The field `summary`. -/
def summaryField : RecordField String := .lenient "summary" "" Reader.string

/-- The field `caseTitle`. -/
def titleField : RecordField (Option String) := .optional "caseTitle" Reader.string

/-- The field `tags`. -/
def tagsField : RecordField (List String) := .lenient "tags" [] (Reader.list Reader.string)

/-- How a case is read. -/
def record : Record CaseRecord where
  name := "CaseRecord"
  slots := [idField.slot, statusField.slot, scheduledForField.slot, createdAtField.slot,
    prosecutionField.slot, defendantField.slot, defenceField.slot, votesField.slot,
    summaryField.slot, titleField.slot, tagsField.slot]
  build := fun node? => do
    pure { id := ← idField.take node?, status := ← statusField.take node?,
           scheduledFor := ← scheduledForField.take node?,
           createdAt := ← createdAtField.take node?,
           prosecution := ← prosecutionField.take node?,
           defendant := ← defendantField.take node?, defence := ← defenceField.take node?,
           votes := ← votesField.take node?, summary := ← summaryField.take node?,
           title := ← titleField.take node?, tags := ← tagsField.take node? }

end CaseRecord
end CourtDocket
