/-
# The fields of a row that show the countdown

A row has a countdown or `null`.  Which of the two, when the countdown ends and over which span of
time it runs, is told by the status and by the times that the publisher wrote:

| record | needs | ends at | span |
| --- | --- | --- | --- |
| a case being heard | its effective time | the time and one hearing, held in 64 bits | one hearing |
| a case to be heard, a call | its hearing time | the time | from filing, else from now |
| a concluded case | | never | |

The spans of the table are exact integers (`CaseRecord.ShowsCountdown`,
`OpenDefenceRecord.ShowsCountdown`), while a row is made with differences that are held in 64 bits.
Nothing is lost by that: of a span only the sign matters, and a difference that is held in 64 bits
has the sign of the exact one (`toInt_subSat_nonpos_iff`).
-/

import CourtDocket.Proofs.Docket.Clock
import CourtDocket.Proofs.Docket.SeatFields

namespace CourtDocket

/-! ### Sums and differences held in 64 bits -/

/-- An integer held between the ends of the 64-bit range. -/
def held (i : ℤ) : ℤ :=
  max (-9223372036854775808) (min i 9223372036854775807)

/-- **Holding a difference in 64 bits does not change its sign.** -/
theorem toInt_subSat_nonpos_iff (a b : Int64) : (subSat a b).toInt ≤ 0 ↔ a.toInt - b.toInt ≤ 0 := by
  rw [toInt_subSat]
  omega

/-- What remains up to an end at the time `now`, in 64 bits: nothing when the end is past. -/
def remainingMillis (now stop : ℤ) : ℤ :=
  max 0 (min (stop - now) 9223372036854775807)

/-- The time that remains is the exact one, held at the end of the range. -/
theorem max_toInt_subSat (stop now : Int64) :
    max (subSat stop now).toInt 0 = remainingMillis now.toInt stop.toInt := by
  rw [toInt_subSat, remainingMillis]
  omega

/-! ### What the document of a countdown shows -/

/-- **What the document of a countdown shows** at the time `now` when it ends at `stop` and runs
over a span of `span` milliseconds. -/
structure ShowsCountdown (now stop span : ℤ) (doc : Json) : Prop where
  /-- It ends when it should. -/
  endAt : doc.member? "endAtMs" = some (.int stop)
  /-- Nothing remains of a span that is not positive, and else what is left up to the end. -/
  remaining : doc.member? "remainingMs" =
    some (.int (if span ≤ 0 then 0 else remainingMillis now stop))
  /-- It is due when nothing remains. -/
  due_iff : doc.member? "label" = some (.string "Due") ↔
    doc.member? "remainingMs" = some (.int 0)

/-- The label of minutes ends with their unit. -/
theorem minutesLabel_ne_due (minutes : ℕ) : minutesLabel minutes ≠ dueLabel := by
  have hlast : (minutesLabel minutes).toList.getLast? = some 'm' := by
    rw [minutesLabel, String.toList_ofList]
    split_ifs
    · exact List.getLast?_concat
    · exact List.getLast?_concat
  intro hdue
  rw [hdue] at hlast
  revert hlast
  decide

/-- Just what is over is labelled as due. -/
theorem durationLabel_eq_due_iff (ms : Int64) : durationLabel ms = "Due" ↔ ms.toInt ≤ 0 := by
  have hzero : ms ≤ 0 ↔ ms.toInt ≤ 0 := Int64.le_iff_toInt_le
  rw [durationLabel]
  constructor
  · intro h
    by_contra hpos
    rw [if_neg (hzero.not.2 hpos)] at h
    exact minutesLabel_ne_due _ h
  · intro h
    exact if_pos (hzero.2 h)

/-- A countdown shows its end and what remains of it, its span counting by its sign only. -/
theorem Countdown.showsCountdown_build (now stop total : Int64) (circumference : Binary64)
    {span : ℤ} (hspan : total.toInt ≤ 0 ↔ span ≤ 0) :
    ShowsCountdown now.toInt stop.toInt span (build now stop total circumference).toJson := by
  have hremaining : (CountdownState.compute now stop total).remaining.toInt =
      if span ≤ 0 then 0 else remainingMillis now.toInt stop.toInt := by
    rw [CountdownState.toInt_remaining_compute, max_toInt_subSat]
    simp only [hspan]
  have hnonneg : 0 ≤ (CountdownState.compute now stop total).remaining.toInt := by
    rw [hremaining, remainingMillis]
    split_ifs
    · exact le_rfl
    · exact le_max_left ..
  constructor
  · rfl
  · rw [← hremaining]
    rfl
  · have hlabel : (build now stop total circumference).toJson.member? "label" =
        some (.string (durationLabel (CountdownState.compute now stop total).remaining)) := rfl
    have hmember : (build now stop total circumference).toJson.member? "remainingMs" =
        some (.int (CountdownState.compute now stop total).remaining.toInt) := rfl
    rw [hlabel, hmember, Option.some_inj, Option.some_inj, Json.string.injEq, Json.int.injEq,
      durationLabel_eq_due_iff]
    omega

namespace Viewpoint

variable (vp : Viewpoint) (start : Timestamp)

/-- A hearing that has begun ends one hearing after its start. -/
theorem showsCountdown_session :
    ShowsCountdown vp.now.toInt (held (start.millis + vp.settings.hearingSession.toInt))
      vp.settings.hearingSession.toInt (vp.sessionCountdown start).toJson := by
  have hstop : (addSat start.epochMillis vp.settings.hearingSession).toInt =
      held (start.millis + vp.settings.hearingSession.toInt) := by
    rw [toInt_addSat, start.toInt_epochMillis]
    rfl
  rw [← hstop]
  exact Countdown.showsCountdown_build _ _ _ _ Iff.rfl

/-- A start is counted down to over the time since its origin, else from now. -/
theorem showsCountdown_start (origin : Option Timestamp) :
    ShowsCountdown vp.now.toInt start.millis
      (start.millis - (origin.map Timestamp.millis).getD vp.now.toInt)
      (vp.startCountdown start origin).toJson := by
  have hbegin : ((origin.map Timestamp.epochMillis).getD vp.now).toInt =
      (origin.map Timestamp.millis).getD vp.now.toInt := by
    rcases origin with _ | t
    · rfl
    · exact t.toInt_epochMillis
  rw [← hbegin, ← start.toInt_epochMillis]
  exact Countdown.showsCountdown_build _ _ _ _ (toInt_subSat_nonpos_iff ..)

end Viewpoint

/-! ### Rows -/

/-- **What the document of a row shows of the countdown of a case** under some settings at the
time `now`. -/
structure CaseRecord.ShowsCountdown (settings : Settings) (now : Int64) (r : CaseRecord)
    (doc : Json) : Prop where
  /-- There is a countdown when a case being heard has a time, or one to be heard a hearing time. -/
  exists_iff : (∃ c, doc.member? "countdown" = some c ∧ c ≠ .null) ↔
    r.status = .active ∧ (r.hearingTime?.isSome ∨ r.filingTime?.isSome) ∨
      r.status = .scheduled ∧ r.hearingTime?.isSome
  /-- Else `null` is shown. -/
  null : doc.member? "countdown" = some .null ∨
    ∃ c, doc.member? "countdown" = some c ∧ c ≠ .null
  /-- A case being heard ends one hearing after its hearing time, else after its filing. -/
  hearing : ∀ start c, r.status = .active → r.hearingTime?.or r.filingTime? = some start →
    doc.member? "countdown" = some c →
      CourtDocket.ShowsCountdown now.toInt (held (start.millis + settings.hearingSession.toInt))
        settings.hearingSession.toInt c
  /-- A case to be heard ends at its hearing time, and runs from its filing, else from now. -/
  lead : ∀ start c, r.status = .scheduled → r.hearingTime? = some start →
    doc.member? "countdown" = some c →
      CourtDocket.ShowsCountdown now.toInt start.millis
        (start.millis - (r.filingTime?.map Timestamp.millis).getD now.toInt) c

/-- **What the document of a row shows of the countdown of a call for a defence** at the time
`now`. -/
structure OpenDefenceRecord.ShowsCountdown (now : Int64) (r : OpenDefenceRecord) (doc : Json) :
    Prop where
  /-- There is a countdown when there is a hearing time. -/
  exists_iff : (∃ c, doc.member? "countdown" = some c ∧ c ≠ .null) ↔ r.hearingTime?.isSome
  /-- Else `null` is shown. -/
  null : doc.member? "countdown" = some .null ∨
    ∃ c, doc.member? "countdown" = some c ∧ c ≠ .null
  /-- It ends at the hearing time, and runs from the filing, else from now. -/
  lead : ∀ start c, r.hearingTime? = some start → doc.member? "countdown" = some c →
    CourtDocket.ShowsCountdown now.toInt start.millis
      (start.millis - (r.filingTime?.map Timestamp.millis).getD now.toInt) c

/-- A countdown that may be missing is shown as its document or as `null`. -/
theorem exists_ofOption_ne_null_iff {c? : Option Countdown} :
    (∃ c, some (Json.ofOption Countdown.toJson c?) = some c ∧ c ≠ .null) ↔ c?.isSome := by
  rcases c? with _ | c
  · simp [Json.ofOption]
  · simp [Json.ofOption, Countdown.toJson]

/-- A countdown that may be missing is told as `null` or as one that is there. -/
theorem ofOption_eq_null_or {c? : Option Countdown} :
    some (Json.ofOption Countdown.toJson c?) = some .null ∨
      ∃ c, some (Json.ofOption Countdown.toJson c?) = some c ∧ c ≠ .null := by
  rw [exists_ofOption_ne_null_iff]
  rcases c? with _ | c
  · exact Or.inl rfl
  · exact Or.inr rfl

namespace Snapshot

variable (settings : Settings) (s : Snapshot)

/-- The countdown of the row of a case, by its status. -/
theorem countdown_caseRow (b : Bucket) (r : CaseRecord) :
    (s.caseRow settings b r).countdown =
      match r.status with
      | .active => r.effectiveTime?.map (s.viewpoint settings).sessionCountdown
      | .scheduled => r.hearingTime?.map fun start =>
          (s.viewpoint settings).startCountdown start r.filingTime?
      | .sealed => none
      | .closed => none := by
  have hstatus : (CaseEntry.ofRecord b r).status = r.status := rfl
  show (CaseEntry.ofRecord b r).countdown (s.viewpoint settings) = _
  rw [CaseEntry.countdown, hstatus, CaseEntry.effectiveTime_ofRecord,
    CaseEntry.time?_scheduledFor_ofRecord, CaseEntry.time?_createdAt_ofRecord]
  cases r.status <;> rfl

/-- The row of a case shows the countdown of its record. -/
theorem showsCountdown_caseRow (b : Bucket) (r : CaseRecord) :
    r.ShowsCountdown settings s.now (s.caseRow settings b r).toJson := by
  have hmember : (s.caseRow settings b r).toJson.member? "countdown" =
      some (.ofOption Countdown.toJson (s.caseRow settings b r).countdown) := rfl
  rw [countdown_caseRow] at hmember
  constructor
  · rw [hmember, exists_ofOption_ne_null_iff]
    cases r.status <;> simp [CaseRecord.effectiveTime?]
  · rw [hmember]
    exact ofOption_eq_null_or
  · intro start c hstatus hstart hc
    have heffective : r.effectiveTime? = some start := hstart
    rw [hmember, hstatus, heffective] at hc
    obtain rfl := Option.some.inj hc
    exact (s.viewpoint settings).showsCountdown_session start
  · intro start c hstatus hstart hc
    rw [hmember, hstatus, hstart] at hc
    obtain rfl := Option.some.inj hc
    exact (s.viewpoint settings).showsCountdown_start start r.filingTime?

/-- The row of a call shows the countdown of its record. -/
theorem showsCountdown_callRow (r : OpenDefenceRecord) :
    r.ShowsCountdown s.now (s.callRow settings r).toJson := by
  have hcountdown : (s.callRow settings r).countdown = r.hearingTime?.map fun start =>
      (s.viewpoint settings).startCountdown start r.filingTime? := by
    simp only [callRow, OpenDefenceEntry.row, OpenDefenceEntry.time?_scheduledFor_ofRecord,
      OpenDefenceEntry.time?_filedAt_ofRecord]
  have hmember : (s.callRow settings r).toJson.member? "countdown" =
      some (.ofOption Countdown.toJson (s.callRow settings r).countdown) := rfl
  rw [hcountdown] at hmember
  constructor
  · rw [hmember, exists_ofOption_ne_null_iff, Option.isSome_map]
  · rw [hmember]
    exact ofOption_eq_null_or
  · intro start c hstart hc
    rw [hmember, hstart] at hc
    obtain rfl := Option.some.inj hc
    exact (s.viewpoint settings).showsCountdown_start start r.filingTime?

/-- **Every row shows the countdown of the record that it is made of**, whichever bucket the record
is in. -/
theorem showsCountdown_rows :
    (∀ b (r : CaseRecord),
        r.ShowsCountdown settings s.now (s.caseRow settings b r).toJson) ∧
      (∀ b b' r, (s.caseRow settings b r).countdown = (s.caseRow settings b' r).countdown) ∧
      ∀ r : OpenDefenceRecord, r.ShowsCountdown s.now (s.callRow settings r).toJson := by
  refine ⟨s.showsCountdown_caseRow settings, fun b b' r => ?_, s.showsCountdown_callRow settings⟩
  rw [countdown_caseRow, countdown_caseRow]

-- a hearing longer than the 64-bit range ends with it, and all of that is left at its beginning
example : ((caseRow { hearingSession := 9223372036854775807 } { now := -9223372036854775808 }
      .scheduled { id := "case-1", status := .active, createdAt := some "1970-01-02" }).countdown.map
        fun c => (c.stop, c.state.remaining)) =
    some (9223372036854775807, 9223372036854775807) := by decide +kernel

end Snapshot
end CourtDocket
