/-
# What the clock does to a docket

Of a row only the seat, the countdown and the policy depend on the clock (`Timed`).  Each of them
uses it in its own way, and each moves in one direction only (`Timed.Later`):

| part | as the clock advances |
| --- | --- |
| seat | a reserved one may become vacant, no other changes |
| countdown | ends when it did, and no more remains than did |
| policy | a hearing beyond the horizon may come within it, never the other way |

A countdown whose filing time is unknown starts over at every reading of the clock, so that its
whole span shrinks with what remains of it; `CountdownState.remaining_compute_le` allows for both.

One reading of the clock leaves every row where it was and makes it later
(`Snapshot.view_atTime_later`).  A run reads it again and again and never backwards: its panels
keep their records in their order, and of two dockets of it the second is later than the first.
-/

import CourtDocket.Proofs.Docket.Panel

namespace CourtDocket

/-- A difference shrinks as what is taken off grows. -/
theorem subSat_le_subSat {n m : Int64} (h : n ≤ m) (t : Int64) : subSat t m ≤ subSat t n := by
  rw [Int64.le_iff_toInt_le] at h ⊢
  rw [toInt_subSat, toInt_subSat]
  omega

/-- The greater of two counts is the greater of their integers. -/
theorem toInt_max (a b : Int64) : (max a b).toInt = max a.toInt b.toInt := by
  show (if a ≤ b then b else a).toInt = _
  split_ifs with h <;> rw [Int64.le_iff_toInt_le] at h <;> omega

/-- The part of a row that depends on the clock. -/
structure Timed where
  /-- Who has the seat of the defence. -/
  seat : Seat
  /-- The countdown. -/
  countdown : Option Countdown
  /-- How the starting time breaks the policy. -/
  policy : PolicyFlags

/-- What a countdown may become. -/
structure Countdown.Later (c c' : Countdown) : Prop where
  /-- It ends when it did. -/
  stop : c'.stop = c.stop
  /-- No more remains than did. -/
  remaining : c'.state.remaining ≤ c.state.remaining

/-- What a seat may become. -/
structure Seat.Later (a b : Seat) : Prop where
  /-- The state stays, or the reservation ends. -/
  status : b.status = a.status ∨ a.status = .reserved ∧ b.status = .vacant
  /-- A seat that may be claimed stays so. -/
  claimable : a.status.isClaimable = true → b.status.isClaimable = true
  /-- The end of the reservation stays as long as the seat is reserved. -/
  reservedUntil : b.status = .reserved → b.reservedUntil = a.reservedUntil

/-- What the part of a row that depends on the clock may become. -/
structure Timed.Later (a b : Timed) : Prop where
  /-- The seat. -/
  seat : a.seat.Later b.seat
  /-- There is a countdown if there was one. -/
  countdown : Option.Rel Countdown.Later a.countdown b.countdown
  /-- A hearing does not come to be beyond the horizon. -/
  outOfWindow : b.policy.outOfWindow = true → a.policy.outOfWindow = true

/-! ### Each part of a row -/

section Derivations

variable {n m : Int64}

/-- The state of a seat at a later time comes later. -/
theorem Seat.resolve_later (h : n ≤ m) (window : Option Int64) (defence defendant : Option String)
    (filed : Option Timestamp) :
    (Seat.resolve window defence defendant filed n).Later
      (Seat.resolve window defence defendant filed m) := by
  simp only [Seat.resolve]
  rcases Text.nonBlank defence with _ | a <;> rcases Text.nonBlank defendant with _ | d <;>
    rcases Seat.deadline? window filed with _ | t
  case none.some.some =>
    simp only
    split_ifs with hn hm
    · exact ⟨Or.inl rfl, fun h => h, fun _ => rfl⟩
    · exact absurd (Int64.le_trans hn h) hm
    · exact ⟨Or.inr ⟨rfl, rfl⟩, fun _ => rfl, fun h => by cases h⟩
    · exact ⟨Or.inl rfl, fun h => h, fun _ => rfl⟩
  all_goals exact ⟨Or.inl rfl, fun h => h, fun _ => rfl⟩

/-- A hearing that is out of the window at some time was so before. -/
theorem PolicyWindow.outOfWindow_classify_of_le (h : n ≤ m) (w : PolicyWindow)
    (start : Option Timestamp) (hm : (w.classify start m).outOfWindow = true) :
    (w.classify start n).outOfWindow = true := by
  simp only [classify, isBeyondHorizon, Option.any_eq_true, decide_eq_true_eq] at hm ⊢
  obtain ⟨t, ht, hlt⟩ := hm
  exact ⟨t, ht, Int64.lt_of_lt_of_le hlt (subSat_le_subSat h _)⟩

/-- What remains of a countdown, exactly. -/
theorem CountdownState.toInt_remaining_compute (now stop total : Int64) :
    (CountdownState.compute now stop total).remaining.toInt =
      if total.toInt ≤ 0 then 0 else max (subSat stop now).toInt 0 := by
  simp only [compute, Int64.le_iff_toInt_le, Int64.toInt_zero]
  split_ifs
  · rfl
  · exact toInt_max ..

/-- What remains does not grow while the clock advances and the span does not grow. -/
theorem CountdownState.remaining_compute_le (h : n ≤ m) {total total' : Int64}
    (htotal : total' ≤ total) (stop : Int64) :
    (compute m stop total').remaining ≤ (compute n stop total).remaining := by
  have hsub := subSat_le_subSat h stop
  rw [Int64.le_iff_toInt_le] at hsub htotal ⊢
  rw [toInt_remaining_compute, toInt_remaining_compute]
  split_ifs <;> omega

/-- A countdown at a later time, over a span that is no longer, is further on. -/
theorem Countdown.build_later (h : n ≤ m) {total total' : Int64} (htotal : total' ≤ total)
    (stop : Int64) (circumference : Binary64) :
    (Countdown.build n stop total circumference).Later
      (Countdown.build m stop total' circumference) :=
  ⟨rfl, CountdownState.remaining_compute_le h htotal stop⟩

end Derivations

namespace Viewpoint

/-- The viewpoint at another time. -/
def atTime (vp : Viewpoint) (now : Int64) : Viewpoint :=
  { vp with now }

variable {vp : Viewpoint} {n : Int64}

/-- The countdown of a session at a later time is further on. -/
theorem sessionCountdown_later (h : vp.now ≤ n) (start : Timestamp) :
    (vp.sessionCountdown start).Later ((vp.atTime n).sessionCountdown start) :=
  Countdown.build_later h Int64.le_rfl ..

/-- With an origin the span is fixed, without one it is what remains. -/
theorem startCountdown_later (h : vp.now ≤ n) (start : Timestamp) (origin : Option Timestamp) :
    (vp.startCountdown start origin).Later ((vp.atTime n).startCountdown start origin) := by
  refine Countdown.build_later h ?_ ..
  cases origin with
  | none => exact subSat_le_subSat h _
  | some t => exact Int64.le_rfl

end Viewpoint

/-- What is made of a time that may be missing is there at all times or at none. -/
theorem rel_map_of_forall {α β : Type} {R : β → β → Prop} {f g : α → β}
    (h : ∀ a, R (f a) (g a)) (a? : Option α) : Option.Rel R (a?.map f) (a?.map g) := by
  cases a? with
  | none => exact .none
  | some a => exact .some (h a)

/-- The countdown of a case at a later time is further on, and is there at both times or at none. -/
theorem CaseEntry.countdown_later (vp : Viewpoint) {n : Int64} (h : vp.now ≤ n) (e : CaseEntry) :
    Option.Rel Countdown.Later (e.countdown vp) (e.countdown (vp.atTime n)) := by
  unfold countdown
  split_ifs
  · exact .none
  · exact rel_map_of_forall (vp.sessionCountdown_later h) _
  · exact rel_map_of_forall (fun start => vp.startCountdown_later h start _) _

/-! ### Rows and panels -/

namespace ScheduleRow

/-- The part of a row that depends on the clock. -/
def timed (r : ScheduleRow) : Timed :=
  ⟨r.seat, r.countdown, r.policy⟩

/-- A row that is otherwise the same. -/
def withTimed (r : ScheduleRow) (t : Timed) : ScheduleRow :=
  { r with seat := t.seat, countdown := t.countdown, policy := t.policy }

/-- **What a row of the schedule may become.** -/
structure Later (r r' : ScheduleRow) : Prop where
  /-- All else stays: ids, heading, summary, labels, votes, times and tags. -/
  frame : r' = r.withTimed r'.timed
  /-- The part that depends on the clock. -/
  timed : r.timed.Later r'.timed

end ScheduleRow

namespace OpenDefenceRow

/-- The part of a row that depends on the clock. -/
def timed (r : OpenDefenceRow) : Timed :=
  ⟨r.seat, r.countdown, r.policy⟩

/-- A row that is otherwise the same. -/
def withTimed (r : OpenDefenceRow) (t : Timed) : OpenDefenceRow :=
  { r with seat := t.seat, countdown := t.countdown, policy := t.policy }

/-- **What a row of the open defences may become.** -/
structure Later (r r' : OpenDefenceRow) : Prop where
  /-- All else stays: ids, labels, times and tags. -/
  frame : r' = r.withTimed r'.timed
  /-- The part that depends on the clock. -/
  timed : r.timed.Later r'.timed

end OpenDefenceRow

/-- **What a docket may become.** -/
structure DocketView.Later (v w : DocketView) : Prop where
  /-- The schedule keeps its rows in their order. -/
  bucket : ∀ b, List.Forall₂ ScheduleRow.Later (v.bucket b) (w.bucket b)
  /-- So do the open defences. -/
  openDefence : List.Forall₂ OpenDefenceRow.Later v.openDefence w.openDefence
  /-- No fewer seats may be claimed. -/
  claimableRows : v.summary.claimableRows ≤ w.summary.claimableRows
  /-- No more rows are beyond the horizon. -/
  outOfPolicyRows : w.summary.outOfPolicyRows ≤ v.summary.outOfPolicyRows

/-- What is made of the same records at two times is related record by record. -/
theorem forall₂_map_of_forall {α β : Type} {R : β → β → Prop} {f g : α → β}
    (h : ∀ a, R (f a) (g a)) (as : List α) : List.Forall₂ R (as.map f) (as.map g) := by
  rw [List.forall₂_map_left_iff, List.forall₂_map_right_iff, List.forall₂_same]
  exact fun a _ => h a

/-- If whatever one row becomes keeps a property, no fewer rows have it afterwards. -/
theorem countP_le_of_forall₂ {α : Type} {R : α → α → Prop} {p : α → Bool} {as bs : List α}
    (h : List.Forall₂ R as bs) (hp : ∀ a b, R a b → p a = true → p b = true) :
    as.countP p ≤ bs.countP p := by
  induction h with
  | nil => exact le_rfl
  | @cons a b as bs hab _ ih =>
    rw [List.countP_cons, List.countP_cons]
    split_ifs with ha hb hb
    · omega
    · exact absurd (hp a b hab ha) hb
    · omega
    · omega

/-- The counts follow from the rows. -/
theorem DocketView.Later.of_rows {v w : DocketView}
    (hbucket : ∀ b, List.Forall₂ ScheduleRow.Later (v.bucket b) (w.bucket b))
    (hopen : List.Forall₂ OpenDefenceRow.Later v.openDefence w.openDefence) : v.Later w where
  bucket := hbucket
  openDefence := hopen
  claimableRows := countP_le_of_forall₂ hopen fun _ _ h => h.timed.seat.claimable
  outOfPolicyRows := by
    have hcases : ∀ b, (w.bucket b).countP (·.policy.outOfWindow) ≤
        (v.bucket b).countP (·.policy.outOfWindow) := fun b =>
      countP_le_of_forall₂ (R := flip ScheduleRow.Later) (hbucket b).flip
        fun _ _ h => h.timed.outOfWindow
    have hcalls : w.openDefence.countP (·.policy.outOfWindow) ≤
        v.openDefence.countP (·.policy.outOfWindow) :=
      countP_le_of_forall₂ (R := flip OpenDefenceRow.Later) hopen.flip
        fun _ _ h => h.timed.outOfWindow
    have hactive := hcases .active
    have hscheduled := hcases .scheduled
    simp only [DocketView.bucket] at hactive hscheduled
    simp only [summary, List.countP_append]
    omega

namespace Snapshot

variable (settings : Settings) (s : Snapshot)

/-- When neither the state of the seat nor the starting time is filtered, the clock has no say in
which calls are shown. -/
theorem shownCalls_atTime (hstatus : s.openDefenceControls.status = .all)
    (hwindow : s.openDefenceControls.window = .anyTime) (n : Int64) :
    (s.atTime n).shownCalls settings = s.shownCalls settings := by
  have hshows : (s.atTime n).showsCall settings = s.showsCall settings := by
    funext r
    simp [showsCall, passesCall, atTime, hstatus, hwindow, SeatFilter.admits, withinWindow,
      StartWindow.bound?]
  rw [shownCalls, hshows]
  rfl

/-- The row of a case at a later time comes later. -/
theorem caseRow_later {s : Snapshot} {n : Int64} (h : s.now ≤ n) (b : Bucket) (r : CaseRecord) :
    (s.caseRow settings b r).Later ((s.atTime n).caseRow settings b r) where
  frame := rfl
  timed :=
    { seat := Seat.resolve_later h ..
      countdown := CaseEntry.countdown_later (s.viewpoint settings) h _
      outOfWindow := PolicyWindow.outOfWindow_classify_of_le h _ _ }

/-- The row of a call at a later time comes later. -/
theorem callRow_later {s : Snapshot} {n : Int64} (h : s.now ≤ n) (r : OpenDefenceRecord) :
    (s.callRow settings r).Later ((s.atTime n).callRow settings r) where
  frame := rfl
  timed :=
    { seat := Seat.resolve_later h ..
      countdown := rel_map_of_forall
        (fun start => (s.viewpoint settings).startCountdown_later h start _) _
      outOfWindow := PolicyWindow.outOfWindow_classify_of_le h _ _ }

/-- **One reading of the clock.**  A docket read at a later time is later. -/
theorem view_atTime_later {s : Snapshot} (hstatus : s.openDefenceControls.status = .all)
    (hwindow : s.openDefenceControls.window = .anyTime) {n : Int64} (h : s.now ≤ n) :
    (s.view settings).Later ((s.atTime n).view settings) := by
  refine .of_rows (fun b => ?_) ?_
  · rw [bucket_view, bucket_view]
    exact forall₂_map_of_forall (caseRow_later settings h b) _
  · rw [openDefence_view, openDefence_view, shownCalls_atTime settings s hstatus hwindow]
    exact forall₂_map_of_forall (callRow_later settings h) _

/-! ### Runs -/

/-- The docket as one reading of the clock after another shows it. -/
def run (s : Snapshot) : List Int64 → List Snapshot
  | [] => []
  | n :: ns => s.atTime n :: (s.atTime n).run ns

/-- Each snapshot of a run is the given one at one of the clocks. -/
theorem exists_of_mem_run {s t : Snapshot} {clocks : List Int64} (h : t ∈ s.run clocks) :
    ∃ n ∈ clocks, t = s.atTime n := by
  induction clocks generalizing s with
  | nil => cases h
  | cons n ns ih =>
    rcases List.mem_cons.1 h with rfl | h
    · exact ⟨n, List.mem_cons_self .., rfl⟩
    · obtain ⟨m, hm, rfl⟩ := ih h
      exact ⟨m, List.mem_cons_of_mem _ hm, rfl⟩

/-- **A run of a docket.**  While the clock does not go backwards, and neither the state of the
seat nor the starting time is filtered, every panel shows the same records in the same order at
all times, and of two dockets of the run the second is later than the first. -/
theorem run_later (hstatus : s.openDefenceControls.status = .all)
    (hwindow : s.openDefenceControls.window = .anyTime) {clocks : List Int64}
    (hclocks : clocks.IsChain (· ≤ ·)) :
    (∀ t ∈ s.run clocks,
      (∀ b, (t.view settings).bucket b = (s.shownCases b).map (t.caseRow settings b)) ∧
        (t.view settings).openDefence = (s.shownCalls settings).map (t.callRow settings)) ∧
    (s.run clocks).Pairwise fun t u => (t.view settings).Later (u.view settings) := by
  constructor
  · intro t ht
    obtain ⟨n, -, rfl⟩ := exists_of_mem_run ht
    refine ⟨fun b => bucket_view .., ?_⟩
    rw [openDefence_view, shownCalls_atTime settings s hstatus hwindow]
  · have : IsTrans Int64 (· ≤ ·) := ⟨fun _ _ _ => Int64.le_trans⟩
    rw [List.isChain_iff_pairwise] at hclocks
    induction hclocks generalizing s with
    | nil => exact .nil
    | @cons n ns hn _ ih =>
      refine .cons (fun t ht => ?_) (ih (s.atTime n) hstatus hwindow)
      obtain ⟨m, hm, rfl⟩ := exists_of_mem_run ht
      exact view_atTime_later settings (s := s.atTime n) hstatus hwindow (hn m hm)

/-- A docket with a defendant who holds a seat for a day from the epoch on. -/
def lapsingDocket : Snapshot :=
  { now := 0
    openDefences := [{ caseId := "case-1", defendant := some "bob-agent"
                       scheduledFor := some "1970-02-01", filedAt := some "1970-01-01" }] }

/-- A run over the end of a reservation: the seat becomes claimable, and the hearing is out of the
window no more. -/
theorem run_later_lapsingDocket :
    (lapsingDocket.openDefenceControls.status = .all ∧
      lapsingDocket.openDefenceControls.window = .anyTime ∧
      ([0, 86399999, 86400000] : List Int64).IsChain (· ≤ ·)) ∧
    ((lapsingDocket.run [0, 86399999, 86400000]).map fun t =>
      ((t.view {}).summary.claimableRows, (t.view {}).summary.outOfPolicyRows)) =
        [(0, 1), (0, 1), (1, 0)] ∧
    (∀ t ∈ lapsingDocket.run [0, 86399999, 86400000],
      (∀ b, (t.view {}).bucket b = (lapsingDocket.shownCases b).map (t.caseRow {} b)) ∧
        (t.view {}).openDefence = (lapsingDocket.shownCalls {}).map (t.callRow {})) ∧
    (lapsingDocket.run [0, 86399999, 86400000]).Pairwise fun t u =>
      (t.view {}).Later (u.view {}) := by
  have hclocks : ([0, 86399999, 86400000] : List Int64).IsChain (· ≤ ·) := by decide
  exact ⟨⟨rfl, rfl, hclocks⟩, by decide +kernel, run_later {} lapsingDocket rfl rfl hclocks⟩

end Snapshot
end CourtDocket
