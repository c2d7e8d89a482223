/-
# What a panel reads of a snapshot

All panels are made from one snapshot, and each of them reads a part of it:

| panel | reads |
| --- | --- |
| a bucket | clock, its cases and their live counts, whether it is chosen, direction, query |
| the open defences | clock, calls, settings of the open defences |

Two snapshots that agree on the part (`AgreesOnBucket`, `AgreesOnCalls`) show the same panel,
however much they differ in the rest (`view_eq_of_agrees`).  What a row reads is even less: the
row of a case is determined by the case, the clock and the live count of this case
(`caseRow_congr`), and the row of a call by the call and the clock (`callRow_congr`).
-/

import CourtDocket.Proofs.Docket.Overlay

namespace CourtDocket

/-- The filter that chooses one bucket. -/
def Bucket.filter : Bucket → BucketFilter
  | .active => .active
  | .scheduled => .scheduled

/-- The filter of a bucket includes that bucket and no other. -/
theorem Bucket.includes_filter (b c : Bucket) : b.filter.includes c = decide (c = b) := by
  cases b <;> cases c <;> rfl

namespace Snapshot

/-- Two snapshots that agree on what the panel of a bucket reads. -/
structure AgreesOnBucket (s t : Snapshot) (b : Bucket) : Prop where
  /-- The clock. -/
  now : s.now = t.now
  /-- The cases of the bucket. -/
  records : s.schedule.bucket b = t.schedule.bucket b
  /-- Whether the bucket is chosen. -/
  includes : s.scheduleControls.filter.includes b = t.scheduleControls.filter.includes b
  /-- The direction of the schedule. -/
  order : s.scheduleControls.order = t.scheduleControls.order
  /-- The query of the schedule. -/
  query : s.scheduleControls.query = t.scheduleControls.query
  /-- The live counts of the cases. -/
  live : ∀ r ∈ s.schedule.bucket b, s.live.get? r.id = t.live.get? r.id

/-- Two snapshots that agree on what the panel of the open defences reads. -/
structure AgreesOnCalls (s t : Snapshot) : Prop where
  /-- The clock. -/
  now : s.now = t.now
  /-- The calls for a defence. -/
  records : s.openDefences = t.openDefences
  /-- The settings of the open defences. -/
  controls : s.openDefenceControls = t.openDefenceControls

/-- The snapshot under another choice of buckets. -/
def withFilter (s : Snapshot) (f : BucketFilter) : Snapshot :=
  { s with scheduleControls := { s.scheduleControls with filter := f } }

variable (settings : Settings) {s t : Snapshot}

/-- The row of a case reads the clock and the live count of this case. -/
theorem caseRow_congr (hnow : s.now = t.now) (b : Bucket) {r : CaseRecord}
    (hlive : s.live.get? r.id = t.live.get? r.id) :
    s.caseRow settings b r = t.caseRow settings b r := by
  -- without live counts the row reads the clock alone, and the votes read one count
  have hrow : ∀ u : Snapshot, u.caseRow settings b r =
      { (CaseEntry.ofRecord b r).row { settings, now := u.now, live := .empty } with
        votes := .ofCount r.votes (u.live.get? r.id) } := fun _ => rfl
  rw [hrow s, hrow t, hnow, hlive]

/-- The row of a call reads the clock. -/
theorem callRow_congr (hnow : s.now = t.now) (r : OpenDefenceRecord) :
    s.callRow settings r = t.callRow settings r := by
  have hrow : ∀ u : Snapshot, u.callRow settings r =
      (OpenDefenceEntry.ofRecord r).row { settings, now := u.now, live := .empty } := fun _ => rfl
  rw [hrow s, hrow t, hnow]

/-- The same cases are shown where two snapshots agree on a bucket. -/
theorem AgreesOnBucket.shownCases_eq {b : Bucket} (h : s.AgreesOnBucket t b) :
    s.shownCases b = t.shownCases b := by
  have hshows : s.showsCase b = t.showsCase b := by
    funext r
    rw [showsCase, showsCase, h.query]
  rw [shownCases, shownCases, h.includes, h.order, h.records, hshows]

/-- The same calls are shown where two snapshots agree on the calls. -/
theorem AgreesOnCalls.shownCalls_eq (h : s.AgreesOnCalls t) :
    s.shownCalls settings = t.shownCalls settings := by
  have hshows : s.showsCall settings = t.showsCall settings := by
    funext r
    rw [showsCall, showsCall, passesCall, passesCall, ← seat_callRow, ← seat_callRow,
      callRow_congr settings h.now, h.controls, h.now]
  rw [shownCalls, shownCalls, h.controls, h.records, hshows]

/-- The panel of a bucket is the same where two snapshots agree on the bucket. -/
theorem AgreesOnBucket.bucket_view_eq {b : Bucket} (h : s.AgreesOnBucket t b) :
    (s.view settings).bucket b = (t.view settings).bucket b := by
  rw [bucket_view, bucket_view, ← h.shownCases_eq]
  exact List.map_congr_left fun r hr =>
    caseRow_congr settings h.now b (h.live r (s.mem_bucket_of_mem_shownCases hr))

/-- The panel of the calls is the same where two snapshots agree on them. -/
theorem AgreesOnCalls.openDefence_view_eq (h : s.AgreesOnCalls t) :
    (s.view settings).openDefence = (t.view settings).openDefence := by
  rw [openDefence_view, openDefence_view, ← h.shownCalls_eq]
  exact List.map_congr_left fun r _ => callRow_congr settings h.now r

/-- The panel of a bucket that is not chosen is empty. -/
theorem bucket_view_eq_nil {b : Bucket} (h : s.scheduleControls.filter.includes b = false) :
    (s.view settings).bucket b = [] := by
  rw [bucket_view, shownCases, h]
  rfl

/-- **The panels are independent.**  Two snapshots that agree on what a panel reads show the same
panel.  So choosing one bucket in place of both empties the other one, and keeps the rows of the
chosen one and of the open defences. -/
theorem view_eq_of_agrees (s t : Snapshot) :
    (∀ b, s.AgreesOnBucket t b → (s.view settings).bucket b = (t.view settings).bucket b) ∧
    (s.AgreesOnCalls t → (s.view settings).openDefence = (t.view settings).openDefence) ∧
    ∀ b,
      ((s.withFilter b.filter).view settings).bucket b =
        ((s.withFilter .all).view settings).bucket b ∧
      (∀ c, c ≠ b → ((s.withFilter b.filter).view settings).bucket c = []) ∧
      ((s.withFilter b.filter).view settings).openDefence =
        ((s.withFilter .all).view settings).openDefence := by
  refine ⟨fun b h => h.bucket_view_eq settings, fun h => h.openDefence_view_eq settings,
    fun b => ⟨?_, fun c hc => ?_, ?_⟩⟩
  · have hagrees : (s.withFilter b.filter).AgreesOnBucket (s.withFilter .all) b :=
      { now := rfl
        records := rfl
        includes := by cases b <;> rfl
        order := rfl
        query := rfl
        live := fun _ _ => rfl }
    exact hagrees.bucket_view_eq settings
  · refine bucket_view_eq_nil settings ?_
    simp [withFilter, Bucket.includes_filter, hc]
  · have hagrees : (s.withFilter b.filter).AgreesOnCalls (s.withFilter .all) := ⟨rfl, rfl, rfl⟩
    exact hagrees.openDefence_view_eq settings

/-- A docket with a case in each bucket, one of which has a live count. -/
def twoBucketDocket : Snapshot :=
  { now := 0
    schedule :=
      { active := [{ id := "case-1", status := .active }]
        scheduled := [{ id := "case-2", status := .scheduled }] }
    openDefences := [{ caseId := "case-2" }]
    live := LiveVotes.empty.put "case-1" 7 }

/-- A docket that shares with it the active case and its live count, but not their order among the
live counts, and the calls for a defence. -/
def busyDocket : Snapshot :=
  { now := 0
    schedule := { active := [{ id := "case-1", status := .active }] }
    openDefences := [{ caseId := "case-2" }]
    scheduleControls := { filter := .active }
    live := (LiveVotes.empty.put "case-9" (-1)).put "case-1" 7 }

/-- Two snapshots that differ in the other bucket, its settings and its counts show the same in this
one. -/
theorem view_eq_of_agrees_twoBucketDocket :
    (twoBucketDocket.AgreesOnBucket busyDocket .active ∧
      twoBucketDocket.AgreesOnCalls busyDocket ∧ Bucket.scheduled ≠ .active) ∧
    ((twoBucketDocket.view {}).bucket .active).length = 1 ∧
    (twoBucketDocket.view {}).bucket .active = (busyDocket.view {}).bucket .active ∧
    (twoBucketDocket.view {}).openDefence = (busyDocket.view {}).openDefence ∧
    ((twoBucketDocket.withFilter Bucket.active.filter).view {}).bucket .scheduled = [] := by
  obtain ⟨hbucket, hcalls, hfilter⟩ := view_eq_of_agrees {} twoBucketDocket busyDocket
  have hactive : twoBucketDocket.AgreesOnBucket busyDocket .active :=
    ⟨rfl, rfl, rfl, rfl, rfl, by decide⟩
  have hopen : twoBucketDocket.AgreesOnCalls busyDocket := ⟨rfl, rfl, rfl⟩
  have hne : Bucket.scheduled ≠ .active := by decide
  exact ⟨⟨hactive, hopen, hne⟩, by decide +kernel, hbucket _ hactive, hcalls hopen,
    (hfilter .active).2.1 _ hne⟩

end Snapshot
end CourtDocket
