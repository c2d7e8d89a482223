/-
# What is told of a docket

The events of a docket come from three places: the times of the records, the seats of the entries
that are shown, and the docket as a whole.  Only the first are warnings, and the others are for
debugging (`level_of_mem_viewEvents`).  So the log of warnings is a list that can be read off the
records (`Snapshot.malformedTimes`): the times that are not blank and write no instant, those of
the cases of the chosen buckets and then those of the calls.  Which rows are shown is no matter
(`filter_viewEvents`).
-/

import CourtDocket.Docket.Log
import CourtDocket.Proofs.Docket.Panel

namespace CourtDocket

/-- A time of a record as it was published. -/
structure PublishedTime where
  /-- The id of the record. -/
  id : String
  /-- The field of the time. -/
  field : String
  /-- What the field holds. -/
  text : Option String
  deriving DecidableEq, Repr

namespace PublishedTime

/-- Whether the text of a time is not blank and writes no instant. -/
def isMalformed (t : PublishedTime) : Bool :=
  t.text.any fun raw => !Text.isBlank raw && (Timestamp.parse raw).toOption.isNone

/-- What is told of a malformed time. -/
def warning (t : PublishedTime) : LogEvent :=
  .malformedTime t.id t.field (t.text.getD "")

end PublishedTime

/-- The times of a case. -/
def CaseRecord.times (r : CaseRecord) : List PublishedTime :=
  [⟨r.id, "scheduledForIso", r.scheduledFor⟩, ⟨r.id, "createdAtIso", r.createdAt⟩]

/-- The times of a call for a defence. -/
def OpenDefenceRecord.times (r : OpenDefenceRecord) : List PublishedTime :=
  [⟨r.caseId, "scheduledForIso", r.scheduledFor⟩, ⟨r.caseId, "filedAtIso", r.filedAt⟩]

namespace Snapshot

/-- The times of the cases of a bucket, none when it is not chosen. -/
def bucketTimes (s : Snapshot) (b : Bucket) : List PublishedTime :=
  if s.scheduleControls.filter.includes b then (s.schedule.bucket b).flatMap CaseRecord.times
  else []

/-- The malformed times that a docket tells of, in order. -/
def malformedTimes (s : Snapshot) : List PublishedTime :=
  (s.bucketTimes .active ++ s.bucketTimes .scheduled ++
    s.openDefences.flatMap OpenDefenceRecord.times).filter PublishedTime.isMalformed

end Snapshot

/-! ### The warnings of an entry are about the times of its record -/

/-- A published time is warned of just when it is malformed. -/
theorem Reading.warning_ofText (t : PublishedTime) :
    (Reading.ofText t.text).warning t.id t.field =
      ([t].filter PublishedTime.isMalformed).map PublishedTime.warning := by
  obtain ⟨id, field, text⟩ := t
  cases text with
  | none => rfl
  | some raw =>
    cases hblank : Text.isBlank raw with
    | true => simp [ofText, warning, malformed?, PublishedTime.isMalformed, hblank]
    | false =>
      cases hparse : Timestamp.parse raw <;>
        simp [ofText, warning, malformed?, PublishedTime.isMalformed, PublishedTime.warning,
          Except.toOption, hblank, hparse]

/-- The entry of a case warns of the malformed times of its record. -/
theorem CaseEntry.warnings_ofRecord (b : Bucket) (r : CaseRecord) :
    (ofRecord b r).warnings =
      (r.times.filter PublishedTime.isMalformed).map PublishedTime.warning := by
  have hscheduled := Reading.warning_ofText ⟨r.id, "scheduledForIso", r.scheduledFor⟩
  have hcreated := Reading.warning_ofText ⟨r.id, "createdAtIso", r.createdAt⟩
  rw [CaseRecord.times, ← List.singleton_append, List.filter_append, List.map_append,
    ← hscheduled, ← hcreated]
  rfl

/-- The entry of a call warns of the malformed times of its record. -/
theorem OpenDefenceEntry.warnings_ofRecord (r : OpenDefenceRecord) :
    (ofRecord r).warnings =
      (r.times.filter PublishedTime.isMalformed).map PublishedTime.warning := by
  have hscheduled := Reading.warning_ofText ⟨r.caseId, "scheduledForIso", r.scheduledFor⟩
  have hfiled := Reading.warning_ofText ⟨r.caseId, "filedAtIso", r.filedAt⟩
  rw [OpenDefenceRecord.times, ← List.singleton_append, List.filter_append, List.map_append,
    ← hscheduled, ← hfiled]
  rfl

/-! ### The levels of the events -/

/-- What is told of a seat is for debugging. -/
theorem Seat.level_of_mem_events {seat : Seat} {e : LogEvent} (h : e ∈ seat.events) :
    e.level = .debug := by
  cases seat <;> simp_all [Seat.events, LogEvent.level]

namespace Snapshot

variable (settings : Settings) (s : Snapshot)

/-- The warnings of a bucket. -/
theorem warnings_bucketEntries (b : Bucket) :
    (s.bucketEntries b).flatMap CaseEntry.warnings =
      ((s.bucketTimes b).filter PublishedTime.isMalformed).map PublishedTime.warning := by
  rw [bucketEntries_eq, bucketTimes]
  split_ifs
  · simp only [List.flatMap_map, CaseEntry.warnings_ofRecord, List.filter_flatMap,
      List.map_flatMap]
  · rfl

/-- The warnings of the calls. -/
theorem warnings_openDefenceEntries :
    s.openDefenceEntries.flatMap OpenDefenceEntry.warnings =
      ((s.openDefences.flatMap OpenDefenceRecord.times).filter
        PublishedTime.isMalformed).map PublishedTime.warning := by
  simp only [openDefenceEntries, List.flatMap_map, OpenDefenceEntry.warnings_ofRecord,
    List.filter_flatMap, List.map_flatMap]

/-- What is told of seats is for debugging. -/
theorem level_of_mem_seatEvents {α : Type} {seat : α → Seat} {as : List α} {e : LogEvent}
    (h : e ∈ as.flatMap fun a => (seat a).events) : e.level = .debug := by
  obtain ⟨a, -, ha⟩ := List.mem_flatMap.1 h
  exact Seat.level_of_mem_events ha

/-- What is told of a docket is warnings and steps of the work. -/
theorem level_of_mem_viewEvents {e : LogEvent} (h : e ∈ s.viewEvents settings) :
    e.level = .warn ∨ e.level = .debug := by
  simp only [viewEvents, bucketEvents, openDefenceEvents, warnings_bucketEntries,
    warnings_openDefenceEntries, List.mem_append, List.mem_map, List.mem_singleton] at h
  rcases h with (((⟨t, -, rfl⟩ | h) | (⟨t, -, rfl⟩ | h)) | (⟨t, -, rfl⟩ | h)) | rfl
  · exact .inl rfl
  · exact .inr (level_of_mem_seatEvents h)
  · exact .inl rfl
  · exact .inr (level_of_mem_seatEvents h)
  · exact .inl rfl
  · exact .inr (level_of_mem_seatEvents h)
  · exact .inr rfl

/-- All that is told of published times are warnings. -/
theorem filter_map_warning (ts : List PublishedTime) :
    (ts.map PublishedTime.warning).filter (·.level = .warn) = ts.map PublishedTime.warning := by
  refine List.filter_eq_self.2 fun e he => ?_
  obtain ⟨t, -, rfl⟩ := List.mem_map.1 he
  rfl

/-- Nothing that is told of seats is a warning. -/
theorem filter_seatEvents {α : Type} (seat : α → Seat) (as : List α) :
    (as.flatMap fun a => (seat a).events).filter (·.level = .warn) = [] := by
  refine List.filter_eq_nil_iff.2 fun e he => ?_
  rw [level_of_mem_seatEvents he]
  decide

/-- **The warnings of a docket**: its malformed times, in order. -/
theorem filter_viewEvents :
    (s.viewEvents settings).filter (·.level = .warn) =
      s.malformedTimes.map PublishedTime.warning := by
  have hlast : [LogEvent.projected s.now (s.view settings).summary].filter (·.level = .warn) = [] :=
    rfl
  simp only [viewEvents, bucketEvents, openDefenceEvents, warnings_bucketEntries,
    warnings_openDefenceEntries, List.filter_append, filter_map_warning, filter_seatEvents, hlast,
    List.append_nil, malformedTimes, List.map_append]

end Snapshot
end CourtDocket
