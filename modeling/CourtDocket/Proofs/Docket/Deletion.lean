/-
# What a record can change

A panel is made of a list of records.  When one of them is deleted, the panel loses the row of that
record, if the record was shown, and keeps all other rows in their order (`LosesRecordAt`).  The
record is meant as the one at its place in the list: two records may be equal, or have equal rows
at different places of the panel.

So the records are sorted together with their places.  Deleting one of them is filtering out its
place, and what is filtered out before the sorting may as well be filtered out after it
(`sortByTime_filter`); no other property of the order is needed.
-/

import CourtDocket.Proofs.Docket.Panel

namespace CourtDocket

variable {α β : Type}

/-- **A panel loses the record at one place.**  Before, it shows the records at certain places of
a list, those of the records that are let through, each once and in some order; afterwards, it
shows the records at the other ones of these places, in the same order. -/
def LosesRecordAt (i : ℕ) (records : List α) (shown : α → Bool) (row : α → β)
    (before after : List β) : Prop :=
  ∃ places : List ℕ, places.Nodup ∧
    (∀ j, j ∈ places ↔ ∃ a, records[j]? = some a ∧ shown a = true) ∧
    before = places.filterMap (fun j => records[j]?.map row) ∧
    after = (places.erase i).filterMap (fun j => records[j]?.map row)

/-- A list without the entry at one place is what is left when that place is filtered out. -/
theorem eraseIdx_eq_filter_zipIdx (as : List α) (i : ℕ) :
    as.eraseIdx i = (as.zipIdx.filter (·.2 ≠ i)).map Prod.fst := by
  -- said of places counted from any number on, which the tail of the list needs
  have hfrom : ∀ n, as.eraseIdx i = ((as.zipIdx n).filter (·.2 ≠ n + i)).map Prod.fst := by
    induction as generalizing i with
    | nil => intro n; rfl
    | cons a as ih =>
      intro n
      rw [List.zipIdx_cons]
      cases i with
      | zero =>
        have hall : (as.zipIdx (n + 1)).filter (·.2 ≠ n) = as.zipIdx (n + 1) := by
          rw [List.filter_eq_self]
          intro p hp
          have hle := (List.mem_zipIdx hp).1
          simp only [ne_eq, decide_not, Bool.not_eq_true', decide_eq_false_iff_not]
          omega
        rw [Nat.add_zero, List.filter_cons_of_neg (by simp), hall, List.zipIdx_map_fst]
        rfl
      | succ i =>
        have hshift : n + (i + 1) = n + 1 + i := by omega
        rw [List.filter_cons_of_pos (by simp), hshift, List.map_cons, ← ih]
        rfl
  simpa using hfrom 0

/-- The entries of a list that are let through, with their places, in the order of their times. -/
def sortedPlaces (order : TimeOrder) (time : α → Option Timestamp) (shown : α → Bool)
    (as : List α) : List (α × ℕ) :=
  sortByTime order (time ∘ Prod.fst) (as.zipIdx.filter (shown ·.1))

section SortedPlaces

variable {order : TimeOrder} {time : α → Option Timestamp} {shown : α → Bool} {as : List α}

/-- A place is among the sorted ones just when it has the element and the element is shown. -/
theorem mem_sortedPlaces {p : α × ℕ} :
    p ∈ sortedPlaces order time shown as ↔ as[p.2]? = some p.1 ∧ shown p.1 = true := by
  rw [sortedPlaces, mem_sortByTime, List.mem_filter, List.mem_zipIdx_iff_getElem?]

/-- No place stands twice among the sorted ones. -/
theorem nodup_map_snd_sortedPlaces :
    ((sortedPlaces order time shown as).map Prod.snd).Nodup := by
  have hperm := (stablyOrdered_sortByTime order (time ∘ Prod.fst)
    (as.zipIdx.filter (shown ·.1))).perm
  have hsublist : ((as.zipIdx.filter (shown ·.1)).map Prod.snd).Sublist
      (as.zipIdx.map Prod.snd) := List.filter_sublist.map _
  rw [List.zipIdx_map_snd] at hsublist
  exact (hperm.map Prod.snd).nodup_iff.2 (hsublist.nodup (List.nodup_range' ..))

/-- Sorting what is left of a list leaves the place of the deleted entry out. -/
theorem sortByTime_eraseIdx (i : ℕ) :
    sortByTime order time ((as.eraseIdx i).filter shown) =
      ((sortedPlaces order time shown as).filter (·.2 ≠ i)).map Prod.fst := by
  rw [eraseIdx_eq_filter_zipIdx, List.filter_map, sortByTime_map, sortedPlaces, sortByTime_filter,
    List.filter_comm]
  rfl

/-- Sorting a list is sorting it with the places and forgetting them. -/
theorem sortByTime_eq_map_sortedPlaces :
    sortByTime order time (as.filter shown) =
      (sortedPlaces order time shown as).map Prod.fst := by
  have hmap : (as.zipIdx.filter (shown ·.1)).map Prod.fst = as.filter shown := by
    conv_rhs => rw [← List.zipIdx_map_fst 0 as, List.filter_map]
    rfl
  rw [sortedPlaces, ← sortByTime_map, hmap]

/-- **A sorted panel loses the record that its list loses.** -/
theorem losesRecordAt_sortByTime (row : α → β) (i : ℕ) :
    LosesRecordAt i as shown row ((sortByTime order time (as.filter shown)).map row)
      ((sortByTime order time ((as.eraseIdx i).filter shown)).map row) := by
  set ps := sortedPlaces order time shown as with hps
  have hnodup : (ps.map Prod.snd).Nodup := nodup_map_snd_sortedPlaces
  have hrows : ∀ qs : List (α × ℕ), qs.Sublist ps →
      (qs.map Prod.fst).map row = (qs.map Prod.snd).filterMap fun j => as[j]?.map row := by
    intro qs hqs
    rw [List.map_map, List.filterMap_map, ← List.filterMap_eq_map]
    refine List.filterMap_congr fun p hp => ?_
    have hget := (mem_sortedPlaces.1 (hqs.subset hp)).1
    simp [hget]
  refine ⟨ps.map Prod.snd, hnodup, fun j => ?_, ?_, ?_⟩
  · simp only [List.mem_map, hps, mem_sortedPlaces]
    constructor
    · rintro ⟨p, ⟨hget, hshown⟩, rfl⟩
      exact ⟨p.1, hget, hshown⟩
    · rintro ⟨a, hget, hshown⟩
      exact ⟨(a, j), ⟨hget, hshown⟩, rfl⟩
  · rw [sortByTime_eq_map_sortedPlaces]
    exact hrows ps (List.Sublist.refl _)
  · have herase : (ps.map Prod.snd).erase i = (ps.filter (·.2 ≠ i)).map Prod.snd := by
      rw [hnodup.erase_eq_filter, List.filter_map]
      refine congrArg (List.map _) (List.filter_congr fun p _ => ?_)
      by_cases hp : p.2 = i <;> simp [hp]
    rw [sortByTime_eraseIdx, herase]
    exact hrows _ List.filter_sublist

end SortedPlaces

/-- The schedule without the case at a place of a bucket. -/
def Schedule.eraseAt (s : Schedule) (i : ℕ) : Bucket → Schedule
  | .active => { s with active := s.active.eraseIdx i }
  | .scheduled => { s with scheduled := s.scheduled.eraseIdx i }

/-- A record that is deleted from one bucket leaves the other as it is. -/
theorem Schedule.bucket_eraseAt (s : Schedule) (b c : Bucket) (i : ℕ) :
    (s.eraseAt i b).bucket c = if c = b then (s.bucket c).eraseIdx i else s.bucket c := by
  cases b <;> cases c <;> rfl

namespace Snapshot

variable (settings : Settings) (s : Snapshot)

/-- The snapshot without the case at a place of a bucket. -/
def eraseCase (s : Snapshot) (b : Bucket) (i : ℕ) : Snapshot :=
  { s with schedule := s.schedule.eraseAt i b }

/-- The snapshot without the call for a defence at a place. -/
def eraseCall (s : Snapshot) (i : ℕ) : Snapshot :=
  { s with openDefences := s.openDefences.eraseIdx i }

/-- The panel of a bucket that has lost a case. -/
theorem losesRecordAt_bucket (b : Bucket) (i : ℕ) :
    LosesRecordAt i (s.schedule.bucket b)
      (fun r => s.scheduleControls.filter.includes b && s.showsCase b r) (s.caseRow settings b)
      ((s.view settings).bucket b) (((s.eraseCase b i).view settings).bucket b) := by
  have hrow : (s.eraseCase b i).caseRow settings b = s.caseRow settings b := rfl
  have hshown : (s.eraseCase b i).shownCases b =
      if s.scheduleControls.filter.includes b then
        sortByTime s.scheduleControls.order CaseRecord.effectiveTime?
          (((s.schedule.bucket b).eraseIdx i).filter (s.showsCase b))
      else [] := by
    rw [shownCases, eraseCase, Schedule.bucket_eraseAt, if_pos rfl]
    rfl
  rw [bucket_view, bucket_view, hrow, hshown, shownCases]
  split_ifs with hincludes
  · simp only [hincludes, Bool.true_and]
    exact losesRecordAt_sortByTime ..
  · exact ⟨[], List.nodup_nil, by simp [hincludes], rfl, rfl⟩

/-- **Deleting a record deletes its row at most.**  When a case or a call for a defence is deleted,
its panel loses the row of that record, if the record was shown, and keeps the other rows as they
are and in their order; the other panels stay as they are. -/
theorem view_erase :
    (∀ b i,
      (∀ c, if c = b then
          LosesRecordAt i (s.schedule.bucket b)
            (fun r => s.scheduleControls.filter.includes b && s.showsCase b r)
            (s.caseRow settings b)
            ((s.view settings).bucket c) (((s.eraseCase b i).view settings).bucket c)
        else ((s.eraseCase b i).view settings).bucket c = (s.view settings).bucket c) ∧
      ((s.eraseCase b i).view settings).openDefence = (s.view settings).openDefence) ∧
    ∀ i,
      (∀ c, ((s.eraseCall i).view settings).bucket c = (s.view settings).bucket c) ∧
      LosesRecordAt i s.openDefences (s.showsCall settings) (s.callRow settings)
        (s.view settings).openDefence ((s.eraseCall i).view settings).openDefence := by
  refine ⟨fun b i => ⟨fun c => ?_, rfl⟩, fun i => ⟨fun c => ?_, ?_⟩⟩
  · split_ifs with hc
    · subst hc
      exact s.losesRecordAt_bucket settings c i
    · have hbucket : (s.eraseCase b i).schedule.bucket c = s.schedule.bucket c := by
        rw [eraseCase, Schedule.bucket_eraseAt, if_neg hc]
      rw [bucket_view, bucket_view, shownCases, shownCases, hbucket]
      rfl
  · rw [bucket_view, bucket_view]
    rfl
  · rw [openDefence_view, openDefence_view]
    exact losesRecordAt_sortByTime ..

end Snapshot

end CourtDocket
