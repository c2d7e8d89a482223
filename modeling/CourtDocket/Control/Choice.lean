/-
# What a reader of the docket can choose

`ScheduleFilter`, `ScheduleSort`, `TimeSort`, `StartWindow` and `ClaimStatusFilter` of the component
`controls` of `docket-view`, §6 and §10.6 (5) of the specification.

Which of the two buckets of the schedule to show, in which order, which starting times, and which
states of the defence seat.  Every choice has its words in a document (`words`) and a vocabulary in
which it is given on its own, as on the command line (`vocabulary`); the order of times has two of
either, one for each panel.
-/

import CourtDocket.Seat.Status
import CourtDocket.Time.Span

namespace CourtDocket

/-- Which buckets of the schedule are shown. -/
inductive BucketFilter where
  /-- Both. -/
  | all
  /-- The cases being heard. -/
  | active
  /-- The cases to be heard. -/
  | scheduled
  deriving DecidableEq, Repr, Inhabited

namespace BucketFilter

/-- The word for a choice. -/
def name : BucketFilter → String
  | all => "all"
  | active => "active"
  | scheduled => "scheduled"

/-- Whether the cases being heard are shown. -/
def includesActive (f : BucketFilter) : Bool :=
  f ≠ scheduled

/-- Whether the cases to be heard are shown. -/
def includesScheduled (f : BucketFilter) : Bool :=
  f ≠ active

/-- The words for the choices in a document. -/
def words : List (String × BucketFilter) :=
  namedWords name [all, active, scheduled]

/-- The words for the choices on their own. -/
def vocabulary : Vocabulary BucketFilter :=
  ⟨"schedule filter", [("all", all), ("active", active), ("scheduled", scheduled)]⟩

end BucketFilter

/-- The direction of a list ordered by time. -/
inductive TimeOrder where
  /-- Early times first. -/
  | ascending
  /-- Late times first. -/
  | descending
  deriving DecidableEq, Repr, Inhabited

namespace TimeOrder

/-- The word for a direction of the schedule. -/
def scheduleName : TimeOrder → String
  | ascending => "time-asc"
  | descending => "time-desc"

/-- The word for a direction of the open defences. -/
def startName : TimeOrder → String
  | ascending => "soonest"
  | descending => "latest"

/-- The words for the directions of the schedule in a document. -/
def scheduleWords : List (String × TimeOrder) :=
  namedWords scheduleName [ascending, descending]

/-- The words for the directions of the schedule on their own. -/
def scheduleVocabulary : Vocabulary TimeOrder :=
  ⟨"schedule sort", [("time-asc", ascending), ("time-desc", descending)]⟩

/-- The words for the directions of the open defences in a document. -/
def startWords : List (String × TimeOrder) :=
  namedWords startName [ascending, descending]

/-- The words for the directions of the open defences on their own. -/
def startVocabulary : Vocabulary TimeOrder :=
  ⟨"time sort", [("soonest", ascending), ("latest", descending)]⟩

end TimeOrder

/-- Which starting times are shown. -/
inductive StartWindow where
  /-- Any, none included. -/
  | anyTime
  /-- Those within the next two hours. -/
  | nextTwoHours
  /-- Those within the next six hours. -/
  | nextSixHours
  deriving DecidableEq, Repr, Inhabited

namespace StartWindow

/-- The word for a choice. -/
def name : StartWindow → String
  | anyTime => "all"
  | nextTwoHours => "next-2h"
  | nextSixHours => "next-6h"

/-- The longest time from now to the start, in milliseconds. -/
def bound? : StartWindow → Option Int64
  | anyTime => none
  | nextTwoHours => some (2 * millisPerHour)
  | nextSixHours => some (6 * millisPerHour)

/-- The words for the choices in a document. -/
def words : List (String × StartWindow) :=
  namedWords name [anyTime, nextTwoHours, nextSixHours]

/-- The words for the choices on their own. -/
def vocabulary : Vocabulary StartWindow :=
  ⟨"start window", [("all", anyTime), ("next-2h", nextTwoHours), ("next-6h", nextSixHours)]⟩

end StartWindow

/-- Which states of the defence seat are shown. -/
inductive SeatFilter where
  /-- All of them. -/
  | all
  /-- One of them. -/
  | only (status : SeatStatus)
  deriving DecidableEq, Repr

instance : Inhabited SeatFilter := ⟨.all⟩

namespace SeatFilter

/-- The word for a choice. -/
def name : SeatFilter → String
  | all => "all"
  | only status => status.name

/-- Whether a state is shown. -/
def admits : SeatFilter → SeatStatus → Bool
  | all, _ => true
  | only status, other => status = other

/-- The words for the choices in a document. -/
def words : List (String × SeatFilter) :=
  namedWords name [all, only .vacant, only .reserved, only .taken]

/-- The words for the choices on their own: one for all states, and those of the states. -/
def vocabulary : Vocabulary SeatFilter :=
  ⟨"claim status filter",
    ("all", all) :: SeatStatus.vocabulary.words.map fun (word, status) => (word, only status)⟩

end SeatFilter
end CourtDocket
