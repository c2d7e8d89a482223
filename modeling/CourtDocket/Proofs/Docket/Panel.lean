/-
# What the panels show

A panel is a list of records, each shown as its row.  Which records these are, and in which order,
is said of the records as they were published and without a sorting algorithm: those that the
settings let through, in the stable order by time (`StablyOrdered`).

| panel | lets through | ordered by |
| --- | --- | --- |
| a bucket, if chosen | its cases that answer the query | the hearing, else the filing |
| the open defences | calls that pass query, tag, starting time and seat | the hearing |

The state of the seat is looked at last, on rows that are made and ordered already; the stable
order does not notice (`openDefence_view`).
-/

import CourtDocket.Docket.View
import CourtDocket.Proofs.Docket.Order
import CourtDocket.Proofs.Entry

namespace CourtDocket

/-- Whether a bucket is chosen. -/
def BucketFilter.includes (f : BucketFilter) : Bucket → Bool
  | .active => f.includesActive
  | .scheduled => f.includesScheduled

/-- The cases published in a bucket. -/
def Schedule.bucket (s : Schedule) : Bucket → List CaseRecord
  | .active => s.active
  | .scheduled => s.scheduled

/-- The rows of a bucket. -/
def DocketView.bucket (v : DocketView) : Bucket → List ScheduleRow
  | .active => v.active
  | .scheduled => v.scheduled

namespace Snapshot

variable (settings : Settings) (s : Snapshot)

/-- The row of a case published in a bucket. -/
def caseRow (b : Bucket) (r : CaseRecord) : ScheduleRow :=
  (CaseEntry.ofRecord b r).row (s.viewpoint settings)

/-- The row of a call for a defence. -/
def callRow (r : OpenDefenceRecord) : OpenDefenceRow :=
  (OpenDefenceEntry.ofRecord r).row (s.viewpoint settings)

/-- Whether a case answers the query of the schedule. -/
def showsCase (b : Bucket) (r : CaseRecord) : Bool :=
  matchesQuery (CaseEntry.ofRecord b r).searchText s.scheduleControls.query

/-- Whether a call passes the query, the tag and the starting time. -/
def passesCall (r : OpenDefenceRecord) : Bool :=
  matchesQuery (OpenDefenceEntry.ofRecord r).searchText s.openDefenceControls.query &&
    matchesTag r.tags s.openDefenceControls.tag &&
    withinWindow r.hearingTime? s.now s.openDefenceControls.window

/-- Whether a call passes, and its seat has a state that is shown. -/
def showsCall (r : OpenDefenceRecord) : Bool :=
  s.passesCall r && s.openDefenceControls.status.admits (r.seat (s.viewpoint settings)).status

/-- The cases shown of a bucket, in order. -/
def shownCases (b : Bucket) : List CaseRecord :=
  if s.scheduleControls.filter.includes b then
    sortByTime s.scheduleControls.order CaseRecord.effectiveTime?
      ((s.schedule.bucket b).filter (s.showsCase b))
  else []

/-- The calls for a defence that are shown, in order. -/
def shownCalls : List OpenDefenceRecord :=
  sortByTime s.openDefenceControls.order OpenDefenceRecord.hearingTime?
    (s.openDefences.filter (s.showsCall settings))

/-- A case that is shown in a bucket stands in it. -/
theorem mem_bucket_of_mem_shownCases {b : Bucket} {r : CaseRecord} (h : r ∈ s.shownCases b) :
    r ∈ s.schedule.bucket b := by
  rw [shownCases] at h
  split_ifs at h
  · exact (List.mem_filter.1 (mem_sortByTime.1 h)).1
  · cases h

/-- A call that is shown stands among the published ones. -/
theorem mem_of_mem_shownCalls {r : OpenDefenceRecord} (h : r ∈ s.shownCalls settings) :
    r ∈ s.openDefences :=
  (List.mem_filter.1 (mem_sortByTime.1 h)).1

/-- The entries of a bucket are those of its cases, unless the bucket is not chosen. -/
theorem bucketEntries_eq (b : Bucket) :
    s.bucketEntries b =
      if s.scheduleControls.filter.includes b then
        (s.schedule.bucket b).map (CaseEntry.ofRecord b)
      else [] := by
  cases b <;> rfl

/-- The entries that are selected are those of the cases that are shown. -/
theorem selectedCases_eq (b : Bucket) :
    s.selectedCases b = (s.shownCases b).map (CaseEntry.ofRecord b) := by
  rw [selectedCases, ScheduleControls.select, bucketEntries_eq, shownCases]
  split_ifs
  · rw [List.filter_map, sortByTime_map]
    simp only [Function.comp_def, CaseEntry.effectiveTime_ofRecord]
    rfl
  · rfl

/-- The entries that are selected are those of the calls that pass all but the state of the seat,
ordered by their times. -/
theorem selectedCalls_eq :
    s.selectedCalls =
      (sortByTime s.openDefenceControls.order OpenDefenceRecord.hearingTime?
        (s.openDefences.filter s.passesCall)).map OpenDefenceEntry.ofRecord := by
  rw [selectedCalls, OpenDefenceControls.select, openDefenceEntries, List.filter_map,
    sortByTime_map]
  simp only [Function.comp_def, OpenDefenceEntry.time?_scheduledFor_ofRecord]
  rfl

/-- The row of a case has the seat of the case. -/
@[simp] theorem seat_caseRow (b : Bucket) (r : CaseRecord) :
    (s.caseRow settings b r).seat = r.seat (s.viewpoint settings) :=
  CaseEntry.seat_ofRecord ..

/-- The row of a call has the seat of the call. -/
@[simp] theorem seat_callRow (r : OpenDefenceRecord) :
    (s.callRow settings r).seat = r.seat (s.viewpoint settings) :=
  OpenDefenceEntry.seat_ofRecord ..

/-- The panel of a bucket shows the rows of the cases shown of it. -/
theorem bucket_view (b : Bucket) :
    (s.view settings).bucket b = (s.shownCases b).map (s.caseRow settings b) := by
  have hrows : (s.view settings).bucket b = s.bucketRows settings b := by cases b <;> rfl
  rw [hrows, bucketRows, selectedCases_eq, List.map_map]
  rfl

/-- The panel of the open defences shows the rows of the calls that are shown: that the state of
the seat is looked at on rows already ordered makes no difference to a stable order. -/
theorem openDefence_view :
    (s.view settings).openDefence = (s.shownCalls settings).map (s.callRow settings) := by
  have hrows : (s.view settings).openDefence =
      ((sortByTime s.openDefenceControls.order OpenDefenceRecord.hearingTime?
        (s.openDefences.filter s.passesCall)).map (s.callRow settings)).filter
          fun r => s.openDefenceControls.status.admits r.seat.status := by
    rw [view, openDefenceRows, selectedCalls_eq, List.map_map]
    rfl
  have hshows : s.showsCall settings = fun r =>
      s.openDefenceControls.status.admits (s.callRow settings r).seat.status && s.passesCall r := by
    funext r
    rw [showsCall, seat_callRow, Bool.and_comm]
  rw [hrows, List.filter_map, sortByTime_filter, List.filter_filter, shownCalls, hshows]
  rfl

/-- **The panel of a bucket, exactly.**  If the bucket is chosen, the panel has the rows of its
cases that answer the query, in the stable order by effective time; if not, it is empty. -/
theorem bucket_view_eq_iff (b : Bucket) (rows : List ScheduleRow) :
    (s.view settings).bucket b = rows ↔
      if s.scheduleControls.filter.includes b then
        ∃ rs, StablyOrdered s.scheduleControls.order CaseRecord.effectiveTime?
            ((s.schedule.bucket b).filter (s.showsCase b)) rs ∧
          rows = rs.map (s.caseRow settings b)
      else rows = [] := by
  rw [bucket_view, shownCases]
  split_ifs
  · constructor
    · rintro rfl
      exact ⟨_, stablyOrdered_sortByTime .., rfl⟩
    · rintro ⟨rs, hrs, rfl⟩
      rw [hrs.unique (stablyOrdered_sortByTime ..)]
  · exact eq_comm

/-- **The panel of the open defences, exactly.**  It has the rows of the calls that pass the
query, the tag, the starting time and the state of the seat, in the stable order by the time of
the hearing. -/
theorem openDefence_view_eq_iff (rows : List OpenDefenceRow) :
    (s.view settings).openDefence = rows ↔
      ∃ rs, StablyOrdered s.openDefenceControls.order OpenDefenceRecord.hearingTime?
          (s.openDefences.filter (s.showsCall settings)) rs ∧
        rows = rs.map (s.callRow settings) := by
  rw [openDefence_view, shownCalls]
  constructor
  · rintro rfl
    exact ⟨_, stablyOrdered_sortByTime .., rfl⟩
  · rintro ⟨rs, hrs, rfl⟩
    rw [hrs.unique (stablyOrdered_sortByTime ..)]

end Snapshot
end CourtDocket
