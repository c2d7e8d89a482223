/-
# Entries of the schedule

`NormalizedCase` and `normalize_case` of the component `normalize` of `docket-view`, with
`effective_time` and `search_text`; §4.5 and §9 of the specification.

A published case made ready for the docket: its times are read, and a title, a defendant or a
defence made of white space is dropped.
-/

import CourtDocket.Entry.Reading
import CourtDocket.Record.Case
import CourtDocket.Seat.Reservation

namespace CourtDocket

/-- The part of the schedule in which a case was published. -/
inductive Bucket where
  /-- The cases being heard. -/
  | active
  /-- The cases to be heard. -/
  | scheduled
  deriving DecidableEq, Repr

/-- The word for a bucket. -/
def Bucket.name : Bucket → String
  | active => "active"
  | scheduled => "scheduled"

/-- A case made ready for the docket. -/
structure CaseEntry where
  /-- Its id. -/
  id : String
  /-- How far it has come. -/
  status : CaseStatus
  /-- The bucket in which it was published. -/
  bucket : Bucket
  /-- Its title, not blank. -/
  title : Option String
  /-- What it is about. -/
  summary : String
  /-- Who prosecutes. -/
  prosecution : String
  /-- Who is accused, not blank. -/
  defendant : Option String
  /-- Who defends, not blank. -/
  defence : Option String
  /-- When it is to be heard. -/
  scheduledFor : Reading
  /-- When it was filed. -/
  createdAt : Reading
  /-- The votes of the jury. -/
  votes : VoteTally
  /-- Its tags. -/
  tags : List String
  deriving DecidableEq

namespace CaseEntry

/-- The entry of a published case. -/
def ofRecord (bucket : Bucket) (r : CaseRecord) : CaseEntry :=
  { id := r.id
    status := r.status
    bucket
    title := Text.nonBlank r.title
    summary := r.summary
    prosecution := r.prosecution
    defendant := Text.nonBlank r.defendant
    defence := Text.nonBlank r.defence
    scheduledFor := .ofText r.scheduledFor
    createdAt := .ofText r.createdAt
    votes := r.votes
    tags := r.tags }

/-- The time by which the case is ordered: when it is to be heard, else when it was filed. -/
def effectiveTime (e : CaseEntry) : Option Timestamp :=
  e.scheduledFor.time?.or e.createdAt.time?

/-- The text in which a query looks: the fields with a space between them. -/
def searchText (e : CaseEntry) : String :=
  " ".intercalate
    [e.id, e.title.getD "", e.summary, e.prosecution, e.defendant.getD ""]

end CaseEntry
end CourtDocket
