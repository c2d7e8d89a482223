/-
# What an entry keeps of its record

An entry is made once from a published record and everything else is made from entries.  Here the
entry is taken away again: the times that it holds are those that its record's texts write
(`Reading.time?_ofText`), and its seat is the seat of the names as they were published, since a
blank name names nobody whether it was dropped before or not (`Seat.resolve_nonBlank`).
-/

import CourtDocket.Docket.Row

namespace CourtDocket

namespace Text

/-- A name is left just when it is there and is not blank. -/
theorem nonBlank_eq_some {s : Option String} {a : String} :
    nonBlank s = some a ↔ s = some a ∧ isBlank a = false := by
  simp [nonBlank, Option.filter_eq_some_iff]

/-- A name that is left once is left again. -/
theorem nonBlank_nonBlank (s : Option String) : nonBlank (nonBlank s) = nonBlank s := by
  simp [nonBlank]

end Text

/-- The time of a reading is the one that the text writes. -/
theorem Reading.time?_ofText (s : Option String) :
    (Reading.ofText s).time? = Timestamp.parseOptional s := by
  rcases s with _ | raw
  · rfl
  · simp only [ofText, Timestamp.parseOptional]
    split
    · rfl
    · cases Timestamp.parse raw <;> rfl

/-- Dropping blank names does not change who has the seat. -/
theorem Seat.resolve_nonBlank (window : Option Int64) (defence defendant : Option String)
    (filed : Option Timestamp) (now : Int64) :
    Seat.resolve window (Text.nonBlank defence) (Text.nonBlank defendant) filed now =
      Seat.resolve window defence defendant filed now := by
  simp only [Seat.resolve, Text.nonBlank_nonBlank]

namespace CaseRecord

/-- When a case is to be heard, if its text writes a time. -/
def hearingTime? (r : CaseRecord) : Option Timestamp :=
  Timestamp.parseOptional r.scheduledFor

/-- When a case was filed, if its text writes a time. -/
def filingTime? (r : CaseRecord) : Option Timestamp :=
  Timestamp.parseOptional r.createdAt

/-- When a case is to be heard, else when it was filed. -/
def effectiveTime? (r : CaseRecord) : Option Timestamp :=
  r.hearingTime?.or r.filingTime?

/-- Who has the seat of the defence of a case. -/
def seat (vp : Viewpoint) (r : CaseRecord) : Seat :=
  vp.seat r.defence r.defendant r.filingTime?

end CaseRecord

namespace OpenDefenceRecord

/-- When a case is to be heard, if its text writes a time. -/
def hearingTime? (r : OpenDefenceRecord) : Option Timestamp :=
  Timestamp.parseOptional r.scheduledFor

/-- When a case was filed, if its text writes a time. -/
def filingTime? (r : OpenDefenceRecord) : Option Timestamp :=
  Timestamp.parseOptional r.filedAt

/-- Who has the seat of the defence of a case. -/
def seat (vp : Viewpoint) (r : OpenDefenceRecord) : Seat :=
  vp.seat r.defence r.defendant r.filingTime?

end OpenDefenceRecord

namespace CaseEntry

variable (b : Bucket) (r : CaseRecord)

/-- The entry has the time of the hearing of the record. -/
@[simp] theorem time?_scheduledFor_ofRecord : (ofRecord b r).scheduledFor.time? = r.hearingTime? :=
  Reading.time?_ofText _

/-- The entry has the time of the filing of the record. -/
@[simp] theorem time?_createdAt_ofRecord : (ofRecord b r).createdAt.time? = r.filingTime? :=
  Reading.time?_ofText _

/-- The entry is ordered by the time of the record. -/
@[simp] theorem effectiveTime_ofRecord : (ofRecord b r).effectiveTime = r.effectiveTime? := by
  simp [effectiveTime, CaseRecord.effectiveTime?]

/-- The entry has the seat of the record. -/
@[simp] theorem seat_ofRecord (vp : Viewpoint) : (ofRecord b r).seat vp = r.seat vp := by
  rw [seat, time?_createdAt_ofRecord]
  exact Seat.resolve_nonBlank ..

end CaseEntry

namespace OpenDefenceEntry

variable (r : OpenDefenceRecord)

/-- The entry of a call has the time of its hearing. -/
@[simp] theorem time?_scheduledFor_ofRecord : (ofRecord r).scheduledFor.time? = r.hearingTime? :=
  Reading.time?_ofText _

/-- The entry of a call has the time of its filing. -/
@[simp] theorem time?_filedAt_ofRecord : (ofRecord r).filedAt.time? = r.filingTime? :=
  Reading.time?_ofText _

/-- The entry of a call has its seat. -/
@[simp] theorem seat_ofRecord (vp : Viewpoint) : (ofRecord r).seat vp = r.seat vp := by
  rw [seat, time?_filedAt_ofRecord]
  exact Seat.resolve_nonBlank ..

end OpenDefenceEntry
end CourtDocket
