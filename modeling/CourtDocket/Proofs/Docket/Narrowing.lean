/-
# What a narrower setting hides

A setting of a panel is widened when it is set to a blank text or to `all`, or when the next two
hours become the next six (`WidensTo`).  A wider panel has the rows of the narrower one in the same
order and other rows between them: what is filtered out before the sorting may as well be filtered
out after it (`sortByTime_filter_sublist`), and no row depends on the settings.

The three states of the seat divide a panel.  Its rows under each of them interleave to its rows
under `all` (`Interleaves`), and no record has a row under two of them.  The records are meant as
those at their places in the list, since two of them may be equal.
-/

import CourtDocket.Proofs.Docket.Deletion

namespace CourtDocket

variable {α β κ : Type}

/-! ### Lists that interleave -/

/-- **Lists that interleave to one**: the whole is used up by taking, again and again, the head of
one of the parts. -/
inductive Interleaves [DecidableEq κ] : (κ → List α) → List α → Prop
  /-- Nothing is left. -/
  | nil : Interleaves (fun _ => []) []
  /-- The head of the whole is the head of a part. -/
  | cons {parts : κ → List α} {whole : List α} (k : κ) (a : α) (h : Interleaves parts whole) :
      Interleaves (Function.update parts k (a :: parts k)) (a :: whole)

/-- The entries of each key interleave to the list. -/
theorem interleaves_filter [DecidableEq κ] (key : α → κ) (as : List α) :
    Interleaves (fun k => as.filter (key · = k)) as := by
  induction as with
  | nil => exact .nil
  | cons a as ih =>
    have hparts : (fun k => (a :: as).filter (key · = k)) =
        Function.update (fun k => as.filter (key · = k)) (key a)
          (a :: as.filter (key · = key a)) := by
      funext k
      by_cases hk : k = key a
      · subst hk
        rw [Function.update_self, List.filter_cons_of_pos (by simp)]
      · rw [Function.update_of_ne hk, List.filter_cons_of_neg (by simpa using Ne.symm hk)]
    rw [hparts]
    exact .cons (key a) a ih

/-- A row for each element keeps an interleaving one. -/
theorem Interleaves.map [DecidableEq κ] {parts : κ → List α} {whole : List α}
    (h : Interleaves parts whole) (f : α → β) :
    Interleaves (fun k => (parts k).map f) (whole.map f) := by
  induction h with
  | nil => exact .nil
  | @cons parts whole k a _ ih =>
    have hparts : (fun j => (Function.update parts k (a :: parts k) j).map f) =
        Function.update (fun j => (parts j).map f) k (f a :: (parts k).map f) := by
      funext j
      by_cases hj : j = k
      · subst hj
        rw [Function.update_self, Function.update_self, List.map_cons]
      · rw [Function.update_of_ne hj, Function.update_of_ne hj]
    rw [hparts]
    exact .cons k (f a) ih

/-- The whole is as long as the parts for the three states together. -/
theorem Interleaves.length_eq {parts : SeatStatus → List α} {whole : List α}
    (h : Interleaves parts whole) :
    whole.length =
      (parts .vacant).length + (parts .reserved).length + (parts .taken).length := by
  induction h with
  | nil => rfl
  | cons k a _ ih => cases k <;> simp [ih] <;> omega

/-! ### Records at their places -/

/-- **A panel shows the records at some places of a list**: a row for each of the places, in the
order in which the places are given. -/
def ShowsPlaces (records : List α) (row : α → β) (places : List ℕ) (rows : List β) : Prop :=
  List.Forall₂ (fun j r => ∃ a, records[j]? = some a ∧ r = row a) places rows

section SortedPlaces

variable {order : TimeOrder} {time : α → Option Timestamp} {as : List α}

/-- The places of what is shown, in the order of the times, show the rows of the panel. -/
theorem showsPlaces_sortByTime (shown : α → Bool) (row : α → β) :
    ShowsPlaces as row ((sortedPlaces order time shown as).map Prod.snd)
      ((sortByTime order time (as.filter shown)).map row) := by
  rw [ShowsPlaces, sortByTime_eq_map_sortedPlaces, List.map_map, List.forall₂_map_left_iff,
    List.forall₂_map_right_iff, List.forall₂_same]
  exact fun p hp => ⟨p.1, (mem_sortedPlaces.1 hp).1, rfl⟩

/-- Letting fewer records through leaves their places out. -/
theorem sortedPlaces_and (p q : α → Bool) :
    sortedPlaces order time (fun a => p a && q a) as =
      (sortedPlaces order time p as).filter (q ·.1) := by
  simp only [sortedPlaces, sortByTime_filter, List.filter_filter, Bool.and_comm]

end SortedPlaces

/-! ### Wider settings -/

/-- Settings of the schedule that are wider in some of the controls and the same in the others. -/
structure ScheduleControls.WidensTo (c c' : ScheduleControls) : Prop where
  /-- The direction is the same. -/
  order : c'.order = c.order
  /-- The bucket is the same, or both are shown. -/
  filter : c'.filter = c.filter ∨ c'.filter = .all
  /-- The query is the same, or blank. -/
  query : c'.query = c.query ∨ Text.isBlank c'.query = true

/-- Settings of the open defences that are wider in some of the controls and the same in the
others. -/
structure OpenDefenceControls.WidensTo (c c' : OpenDefenceControls) : Prop where
  /-- The direction is the same. -/
  order : c'.order = c.order
  /-- The query is the same, or blank. -/
  query : c'.query = c.query ∨ Text.isBlank c'.query = true
  /-- The tag is the same, or blank. -/
  tag : c'.tag = c.tag ∨ Text.isBlank c'.tag = true
  /-- The states of the seat are the same, or all. -/
  status : c'.status = c.status ∨ c'.status = .all
  /-- The starting times are the same, or all, or those of six hours for those of two. -/
  window : c'.window = c.window ∨ c'.window = .anyTime ∨
    c.window = .nextTwoHours ∧ c'.window = .nextSixHours

/-- A blank query lets everything through. -/
theorem matchesQuery_of_isBlank {text query : String} (h : Text.isBlank query = true) :
    matchesQuery text query = true := by
  rw [matchesQuery, h, Bool.true_or]

/-- A blank tag lets everything through. -/
theorem matchesTag_of_isBlank {tags : List String} {query : String}
    (h : Text.isBlank query = true) : matchesTag tags query = true := by
  rw [matchesTag, h, Bool.true_or]

/-- What starts within two hours starts within six. -/
theorem withinWindow_sixHours {start : Option Timestamp} {now : Int64}
    (h : withinWindow start now .nextTwoHours = true) :
    withinWindow start now .nextSixHours = true := by
  simp only [withinWindow, StartWindow.bound?, Option.any_eq_true, Bool.and_eq_true,
    decide_eq_true_eq] at h ⊢
  obtain ⟨t, ht, hpast, hbound⟩ := h
  exact ⟨t, ht, hpast, Int64.le_trans hbound (by decide)⟩

/-- A wider choice has every bucket that the narrower one has. -/
theorem BucketFilter.includes_of_widens {f f' : BucketFilter} (h : f' = f ∨ f' = .all)
    {b : Bucket} (hb : f.includes b = true) : f'.includes b = true := by
  rcases h with rfl | rfl
  · exact hb
  · cases b <;> rfl

namespace Snapshot

variable (settings : Settings) (s : Snapshot)

/-- The snapshot under other settings of the schedule. -/
def withScheduleControls (s : Snapshot) (c : ScheduleControls) : Snapshot :=
  { s with scheduleControls := c }

/-- The snapshot under other settings of the open defences. -/
def withOpenDefenceControls (s : Snapshot) (c : OpenDefenceControls) : Snapshot :=
  { s with openDefenceControls := c }

/-- A case that is shown under some settings is shown under wider ones. -/
theorem showsCase_of_widensTo {c c' : ScheduleControls} (h : c.WidensTo c') (b : Bucket)
    (r : CaseRecord) (hr : (s.withScheduleControls c).showsCase b r = true) :
    (s.withScheduleControls c').showsCase b r = true := by
  rcases h.query with hquery | hquery
  · rwa [showsCase, withScheduleControls, hquery]
  · exact matchesQuery_of_isBlank hquery

/-- A call that is shown under some settings is shown under wider ones. -/
theorem showsCall_of_widensTo {c c' : OpenDefenceControls} (h : c.WidensTo c')
    (r : OpenDefenceRecord) (hr : (s.withOpenDefenceControls c).showsCall settings r = true) :
    (s.withOpenDefenceControls c').showsCall settings r = true := by
  simp only [showsCall, passesCall, withOpenDefenceControls, Bool.and_eq_true] at hr ⊢
  obtain ⟨⟨⟨hquery, htag⟩, hwindow⟩, hstatus⟩ := hr
  refine ⟨⟨⟨?_, ?_⟩, ?_⟩, ?_⟩
  · rcases h.query with e | hblank
    · rwa [e]
    · exact matchesQuery_of_isBlank hblank
  · rcases h.tag with e | hblank
    · rwa [e]
    · exact matchesTag_of_isBlank hblank
  · rcases h.window with e | e | ⟨e, e'⟩
    · rwa [e]
    · rw [e]
      rfl
    · rw [e] at hwindow
      rw [e']
      exact withinWindow_sixHours hwindow
  · rcases h.status with e | e
    · rwa [e]
    · rw [e]
      rfl

/-- A wider panel of a bucket has the rows of the narrower one, in the same order. -/
theorem bucket_sublist_of_widensTo {c c' : ScheduleControls} (h : c.WidensTo c') (b : Bucket) :
    (((s.withScheduleControls c).view settings).bucket b).Sublist
      (((s.withScheduleControls c').view settings).bucket b) := by
  have hrow : (s.withScheduleControls c').caseRow settings b =
      (s.withScheduleControls c).caseRow settings b := rfl
  have hshown : ((s.withScheduleControls c).shownCases b).Sublist
      ((s.withScheduleControls c').shownCases b) := by
    rw [shownCases, shownCases]
    split_ifs with hb hb'
    · simp only [withScheduleControls, h.order]
      exact sortByTime_filter_sublist (s.showsCase_of_widensTo h b) _
    · exact absurd (BucketFilter.includes_of_widens h.filter hb) hb'
    · exact List.nil_sublist _
    · exact List.nil_sublist _
  rw [bucket_view, bucket_view, hrow]
  exact hshown.map _

/-- A wider panel of the open defences has the rows of the narrower one, in the same order. -/
theorem openDefence_sublist_of_widensTo {c c' : OpenDefenceControls} (h : c.WidensTo c') :
    ((s.withOpenDefenceControls c).view settings).openDefence.Sublist
      ((s.withOpenDefenceControls c').view settings).openDefence := by
  have hrow : (s.withOpenDefenceControls c').callRow settings =
      (s.withOpenDefenceControls c).callRow settings := rfl
  have hshown : ((s.withOpenDefenceControls c).shownCalls settings).Sublist
      ((s.withOpenDefenceControls c').shownCalls settings) := by
    simp only [shownCalls, withOpenDefenceControls, h.order]
    exact sortByTime_filter_sublist (s.showsCall_of_widensTo settings h) _
  rw [openDefence_view, openDefence_view, hrow]
  exact hshown.map _

/-! ### The states of the seat -/

/-- The docket under a filter for the state of the seat, the other settings given. -/
def viewUnder (c : OpenDefenceControls) (status : SeatFilter) : DocketView :=
  (s.withOpenDefenceControls { c with status }).view settings

/-- The places of the calls that are shown under a filter for the state of the seat, in order. -/
def callPlaces (c : OpenDefenceControls) (status : SeatFilter) : List ℕ :=
  (sortedPlaces c.order OpenDefenceRecord.hearingTime?
    ((s.withOpenDefenceControls { c with status }).showsCall settings) s.openDefences).map Prod.snd

/-- No place is shown twice. -/
theorem nodup_callPlaces (c : OpenDefenceControls) (f : SeatFilter) :
    (s.callPlaces settings c f).Nodup :=
  nodup_map_snd_sortedPlaces

/-- The panel of the calls shows the rows of its places. -/
theorem showsPlaces_callPlaces (c : OpenDefenceControls) (f : SeatFilter) :
    ShowsPlaces s.openDefences (s.callRow settings) (s.callPlaces settings c f)
      (s.viewUnder settings c f).openDefence := by
  rw [viewUnder, openDefence_view]
  exact showsPlaces_sortByTime ..

/-- The calls shown under a filter, with their places: those shown under `all` whose seat has a
state that the filter admits. -/
theorem sortedPlaces_status (c : OpenDefenceControls) (f : SeatFilter) :
    sortedPlaces c.order OpenDefenceRecord.hearingTime?
        ((s.withOpenDefenceControls { c with status := f }).showsCall settings) s.openDefences =
      (sortedPlaces c.order OpenDefenceRecord.hearingTime?
        ((s.withOpenDefenceControls { c with status := .all }).showsCall settings)
          s.openDefences).filter fun p => f.admits (p.1.seat (s.viewpoint settings)).status := by
  have hshows : (s.withOpenDefenceControls { c with status := f }).showsCall settings =
      fun r => (s.withOpenDefenceControls { c with status := .all }).showsCall settings r &&
        f.admits (r.seat (s.viewpoint settings)).status := by
    funext r
    exact congrArg (· && _) (Bool.and_true _).symm
  rw [hshows, sortedPlaces_and]

/-- No record is shown under two states of the seat. -/
theorem disjoint_callPlaces (c : OpenDefenceControls) {a b : SeatStatus} (h : a ≠ b) :
    (s.callPlaces settings c (.only a)).Disjoint (s.callPlaces settings c (.only b)) := by
  intro j ha hb
  rw [callPlaces, sortedPlaces_status] at ha hb
  simp only [List.mem_map, List.mem_filter, mem_sortedPlaces, SeatFilter.admits,
    decide_eq_true_eq] at ha hb
  obtain ⟨p, ⟨⟨hp, -⟩, hpa⟩, rfl⟩ := ha
  obtain ⟨q, ⟨⟨hq, -⟩, hqb⟩, hplace⟩ := hb
  -- one place has one record, whose seat has one state
  rw [hplace, hp, Option.some_inj] at hq
  exact h (hpa.trans (hq ▸ hqb.symm))

/-- The places under the three states of the seat interleave to those under all of them. -/
theorem interleaves_callPlaces (c : OpenDefenceControls) :
    Interleaves (fun a => s.callPlaces settings c (.only a)) (s.callPlaces settings c .all) := by
  have hparts : (fun a => s.callPlaces settings c (.only a)) = fun a =>
      ((sortedPlaces c.order OpenDefenceRecord.hearingTime?
        ((s.withOpenDefenceControls { c with status := .all }).showsCall settings)
          s.openDefences).filter
            fun p => (p.1.seat (s.viewpoint settings)).status = a).map Prod.snd := by
    funext a
    rw [callPlaces, sortedPlaces_status]
    simp only [SeatFilter.admits, eq_comm]
  rw [hparts]
  exact (interleaves_filter _ _).map Prod.snd

/-- The rows under one state of the seat are the rows under `all` that show this state. -/
theorem openDefence_viewUnder_only (c : OpenDefenceControls) (a : SeatStatus) :
    (s.viewUnder settings c (.only a)).openDefence =
      (s.viewUnder settings c .all).openDefence.filter (·.seat.status = a) := by
  simp only [viewUnder, view, openDefenceRows, withOpenDefenceControls, SeatFilter.admits,
    List.filter_true, eq_comm]
  rfl

/-- **Narrowing a setting only hides rows.**  When the settings of a panel are widened, its rows
stay the same and in the same order, and others may come between them.  The rows of the open
defences under the three states of the seat interleave to those under `all`, no record has a row
under two states, and the rows that may be claimed are those under `open`. -/
theorem view_narrowing :
    (∀ c c' : ScheduleControls, c.WidensTo c' → ∀ b,
      (((s.withScheduleControls c).view settings).bucket b).Sublist
        (((s.withScheduleControls c').view settings).bucket b)) ∧
    (∀ c c' : OpenDefenceControls, c.WidensTo c' →
      ((s.withOpenDefenceControls c).view settings).openDefence.Sublist
        ((s.withOpenDefenceControls c').view settings).openDefence) ∧
    ∀ c : OpenDefenceControls,
      (∃ places : SeatFilter → List ℕ,
        (∀ f, (places f).Nodup ∧ ShowsPlaces s.openDefences (s.callRow settings) (places f)
          (s.viewUnder settings c f).openDefence) ∧
        (∀ a b, a ≠ b → (places (.only a)).Disjoint (places (.only b))) ∧
        Interleaves (fun a => places (.only a)) (places .all)) ∧
      Interleaves (fun a => (s.viewUnder settings c (.only a)).openDefence)
        (s.viewUnder settings c .all).openDefence ∧
      (s.viewUnder settings c .all).summary.openDefenceRows =
        (s.viewUnder settings c (.only .vacant)).summary.openDefenceRows +
        (s.viewUnder settings c (.only .reserved)).summary.openDefenceRows +
        (s.viewUnder settings c (.only .taken)).summary.openDefenceRows ∧
      (s.viewUnder settings c .all).summary.claimableRows =
        (s.viewUnder settings c (.only .vacant)).summary.openDefenceRows := by
  refine ⟨fun c c' h => s.bucket_sublist_of_widensTo settings h,
    fun c c' h => s.openDefence_sublist_of_widensTo settings h, fun c => ?_⟩
  have hrows : Interleaves (fun a => (s.viewUnder settings c (.only a)).openDefence)
      (s.viewUnder settings c .all).openDefence := by
    simp only [openDefence_viewUnder_only]
    exact interleaves_filter _ _
  refine ⟨⟨s.callPlaces settings c, fun f => ⟨s.nodup_callPlaces settings c f,
    s.showsPlaces_callPlaces settings c f⟩, fun a b h => s.disjoint_callPlaces settings c h,
    s.interleaves_callPlaces settings c⟩, hrows, hrows.length_eq, ?_⟩
  -- a row may be claimed when its seat is vacant
  have hclaimable : ∀ row : OpenDefenceRow,
      row.seat.status.isClaimable = decide (row.seat.status = .vacant) := fun row => by
    cases row.seat.status <;> rfl
  simp only [DocketView.summary, openDefence_viewUnder_only, hclaimable,
    List.countP_eq_length_filter]

/-- A docket with seats of all states; the first two calls are one record given twice. -/
def mixedDocket : Snapshot :=
  { now := 0
    schedule := { active := [{ id := "case-1", status := .active }] }
    openDefences := [
      { caseId := "case-1", scheduledFor := some "1970-01-01T02:00:00Z" },
      { caseId := "case-1", scheduledFor := some "1970-01-01T02:00:00Z" },
      { caseId := "case-2", scheduledFor := some "1970-01-01T05:00:00Z"
        defendant := some "bob-agent" },
      { caseId := "case-3", defence := some "dana-agent" }] }

/-- Wider settings and the three states of the seat, in a docket with a call in each state. -/
theorem view_narrowing_mixedDocket :
    let c : ScheduleControls := { filter := .scheduled, query := "case-2" }
    let d : OpenDefenceControls := { query := "CASE-1", window := .nextTwoHours }
    let d' : OpenDefenceControls := { query := " ", window := .nextSixHours }
    (c.WidensTo {} ∧ d.WidensTo d') ∧
    ([d, d', {}].map fun e =>
      ((mixedDocket.withOpenDefenceControls e).view {}).summary.openDefenceRows) = [2, 3, 4] ∧
    (((mixedDocket.withScheduleControls c).view {}).bucket .active).Sublist
      (((mixedDocket.withScheduleControls {}).view {}).bucket .active) ∧
    ((mixedDocket.withOpenDefenceControls d).view {}).openDefence.Sublist
      ((mixedDocket.withOpenDefenceControls d').view {}).openDefence ∧
    ∃ places : SeatFilter → List ℕ,
      (∀ f, (places f).Nodup ∧ ShowsPlaces mixedDocket.openDefences (mixedDocket.callRow {})
        (places f) (mixedDocket.viewUnder {} {} f).openDefence) ∧
      SeatStatus.vacant ≠ .taken ∧
      (places (.only .vacant)).Disjoint (places (.only .taken)) := by
  intro c d d'
  obtain ⟨hcases, hcalls, hseats⟩ := view_narrowing {} mixedDocket
  have hc : c.WidensTo {} := ⟨rfl, .inr rfl, .inr rfl⟩
  have hd : d.WidensTo d' := ⟨rfl, .inr (by decide), .inl rfl, .inl rfl, .inr (.inr ⟨rfl, rfl⟩)⟩
  obtain ⟨⟨places, hplaces, hdisjoint, -⟩, -⟩ := hseats {}
  have hne : SeatStatus.vacant ≠ .taken := by decide
  exact ⟨⟨hc, hd⟩, by decide +kernel, hcases c {} hc .active, hcalls d d' hd, places, hplaces, hne,
    hdisjoint _ _ hne⟩

end Snapshot
end CourtDocket
