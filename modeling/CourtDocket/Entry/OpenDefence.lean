/-
# Entries of the open defences

`NormalizedOpenDefence` and `normalize_open_defence` of the component `normalize` of `docket-view`,
with `search_text`; §4.5 and §9 of the specification.

A published call for a defence made ready for the docket: its times are read, and a defendant or a
defence made of white space is dropped.
-/

import CourtDocket.Entry.Reading
import CourtDocket.Record.OpenDefence
import CourtDocket.Seat.Reservation

namespace CourtDocket

/-- A call for a defence made ready for the docket. -/
structure OpenDefenceEntry where
  /-- The id of the case. -/
  caseId : String
  /-- Who prosecutes. -/
  prosecution : String
  /-- Who is accused, not blank. -/
  defendant : Option String
  /-- Who defends, not blank. -/
  defence : Option String
  /-- When the case is to be heard. -/
  scheduledFor : Reading
  /-- When the case was filed. -/
  filedAt : Reading
  /-- The tags of the case. -/
  tags : List String
  deriving DecidableEq

namespace OpenDefenceEntry

/-- The entry of a published call. -/
def ofRecord (r : OpenDefenceRecord) : OpenDefenceEntry :=
  { caseId := r.caseId
    prosecution := r.prosecution
    defendant := Text.nonBlank r.defendant
    defence := Text.nonBlank r.defence
    scheduledFor := .ofText r.scheduledFor
    filedAt := .ofText r.filedAt
    tags := r.tags }

/-- The text in which a query looks: the fields and the tags with a space between them. -/
def searchText (e : OpenDefenceEntry) : String :=
  " ".intercalate ([e.caseId, e.prosecution, e.defendant.getD ""] ++ e.tags)

end OpenDefenceEntry
end CourtDocket
