/-
# Published calls for a defence

`OpenDefenceRecord` of `docket-core`, §3 and §10.6 (10) of the specification.

A case that looks for a volunteer to defend it, as its publisher writes it.  Only the id of the
case is required.
-/

import CourtDocket.Record.Case

namespace CourtDocket

/-- A published call for a defence. -/
structure OpenDefenceRecord where
  /-- The id of the case. -/
  caseId : String
  /-- Who prosecutes. -/
  prosecution : String := ""
  /-- Who is accused. -/
  defendant : Option String := none
  /-- Who defends. -/
  defence : Option String := none
  /-- When the case is to be heard. -/
  scheduledFor : Option String := none
  /-- When the case was filed. -/
  filedAt : Option String := none
  /-- The tags of the case. -/
  tags : List String := []
  deriving DecidableEq, Repr

open Json

namespace OpenDefenceRecord

/-- The document of a call. -/
def toJson (r : OpenDefenceRecord) : Json :=
  .object [("caseId", .string r.caseId), ("prosecutionAgentId", .string r.prosecution),
    ("defendantAgentId", textJson r.defendant), ("defenceAgentId", textJson r.defence),
    ("scheduledForIso", textJson r.scheduledFor), ("filedAtIso", textJson r.filedAt),
    ("tags", .strings r.tags)]

/-- The field `caseId`. -/
def caseIdField : RecordField String := .required "caseId" Reader.string

/-- The field `filedAtIso`. -/
def filedAtField : RecordField (Option String) := .optional "filedAtIso" Reader.string

open CaseRecord in
/-- How a call is read.  The fields that it shares with a case are read alike. -/
def record : Record OpenDefenceRecord where
  name := "OpenDefenceRecord"
  slots := [caseIdField.slot, prosecutionField.slot, defendantField.slot, defenceField.slot,
    scheduledForField.slot, filedAtField.slot, tagsField.slot]
  build := fun node? => do
    pure { caseId := ← caseIdField.take node?, prosecution := ← prosecutionField.take node?,
           defendant := ← defendantField.take node?, defence := ← defenceField.take node?,
           scheduledFor := ← scheduledForField.take node?, filedAt := ← filedAtField.take node?,
           tags := ← tagsField.take node? }

end OpenDefenceRecord
end CourtDocket
