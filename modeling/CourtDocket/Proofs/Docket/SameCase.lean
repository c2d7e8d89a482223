/-
# One case in both panels

A case can be published in the schedule and as a call for a defence.  When the two records say the
same of it (`OpenDefenceRecord.CallsFor`), their rows do so too (`callRow_agrees`): the two entries
hold the same names and the same readings of the times (`OpenDefenceEntry.CallsFor`), and the seat,
the policy and the labels of a row are made of these alone.  So is the countdown of a case that is
to be heard; a case being heard counts down to the end of its hearing, a call to its start.
-/

import CourtDocket.Proofs.Docket.SeatFields

namespace CourtDocket

/-- **A call for the defence of a case**: the call says of the case what the record of the case
says. -/
structure OpenDefenceRecord.CallsFor (o : OpenDefenceRecord) (r : CaseRecord) : Prop where
  /-- The id. -/
  caseId : o.caseId = r.id
  /-- Who prosecutes. -/
  prosecution : o.prosecution = r.prosecution
  /-- Who is accused. -/
  defendant : o.defendant = r.defendant
  /-- Who defends. -/
  defence : o.defence = r.defence
  /-- When the case is to be heard. -/
  scheduledFor : o.scheduledFor = r.scheduledFor
  /-- When the case was filed. -/
  filedAt : o.filedAt = r.createdAt

/-- The entry of a call that says of a case what the entry of the case says. -/
structure OpenDefenceEntry.CallsFor (o : OpenDefenceEntry) (e : CaseEntry) : Prop where
  /-- The id. -/
  caseId : o.caseId = e.id
  /-- Who prosecutes. -/
  prosecution : o.prosecution = e.prosecution
  /-- Who is accused. -/
  defendant : o.defendant = e.defendant
  /-- Who defends. -/
  defence : o.defence = e.defence
  /-- When the case is to be heard. -/
  scheduledFor : o.scheduledFor = e.scheduledFor
  /-- When the case was filed. -/
  filedAt : o.filedAt = e.createdAt

/-- What the rows of a call and of a case say alike. -/
structure OpenDefenceRow.AgreesWith (o : OpenDefenceRow) (e : ScheduleRow) : Prop where
  /-- The id. -/
  caseId : o.caseId = e.id
  /-- Who prosecutes. -/
  prosecution : o.prosecution = e.prosecution
  /-- The label of the defendant. -/
  defendantLabel : o.defendantLabel = e.defendantLabel
  /-- Who has the seat of the defence. -/
  seat : o.seat = e.seat
  /-- How the starting time breaks the policy. -/
  policy : o.policy = e.policy
  /-- When the case is to be heard. -/
  scheduledFor : o.scheduledFor = e.scheduledFor
  /-- The countdown of a case that is to be heard. -/
  countdown : e.status = .scheduled → o.countdown = e.countdown

/-- The members of a row's document that the two panels have in common. -/
def commonMembers : List String :=
  ["prosecutionAgentId", "defendantLabel", "claimStatus", "claimable", "reservedUntilMs",
    "claimBadge", "outOfPolicyWindow", "belowPolicyFloor", "scheduledForIso"]

/-- Records that say the same are read to entries that say the same. -/
theorem OpenDefenceRecord.CallsFor.entries {o : OpenDefenceRecord} {r : CaseRecord}
    (h : o.CallsFor r) (b : Bucket) :
    (OpenDefenceEntry.ofRecord o).CallsFor (CaseEntry.ofRecord b r) where
  caseId := h.caseId
  prosecution := h.prosecution
  defendant := congrArg Text.nonBlank h.defendant
  defence := congrArg Text.nonBlank h.defence
  scheduledFor := congrArg Reading.ofText h.scheduledFor
  filedAt := congrArg Reading.ofText h.filedAt

namespace OpenDefenceEntry.CallsFor

variable {o : OpenDefenceEntry} {e : CaseEntry}

/-- The two seats are resolved from the same names at the same time. -/
theorem seat_eq (h : o.CallsFor e) (vp : Viewpoint) : o.seat vp = e.seat vp := by
  rw [OpenDefenceEntry.seat, CaseEntry.seat, h.defence, h.defendant, h.filedAt]

/-- A case that is to be heard counts down to its start, as every call does. -/
theorem countdown_eq (h : o.CallsFor e) (vp : Viewpoint) (hstatus : e.status = .scheduled) :
    (o.row vp).countdown = e.countdown vp := by
  have hcase : e.countdown vp =
      e.scheduledFor.time?.map fun start => vp.startCountdown start e.createdAt.time? := by
    rw [CaseEntry.countdown, hstatus]
    rfl
  rw [hcase, ← h.scheduledFor, ← h.filedAt]
  rfl

/-- Entries that say the same have rows that say the same. -/
theorem rows (h : o.CallsFor e) (vp : Viewpoint) : (o.row vp).AgreesWith (e.row vp) where
  caseId := h.caseId
  prosecution := h.prosecution
  defendantLabel := congrArg partyLabel h.defendant
  seat := h.seat_eq vp
  policy := congrArg (fun t : Reading => vp.settings.policy.classify t.time? vp.now) h.scheduledFor
  scheduledFor := congrArg (fun t : Reading => t.time?.map Timestamp.isoText) h.scheduledFor
  countdown := h.countdown_eq vp

end OpenDefenceEntry.CallsFor

/-- Rows that say the same have documents that say the same. -/
theorem OpenDefenceRow.AgreesWith.member?_eq {o : OpenDefenceRow} {e : ScheduleRow}
    (h : o.AgreesWith e) :
    (∀ key ∈ commonMembers, o.toJson.member? key = e.toJson.member? key) ∧
      (e.status = .scheduled → o.toJson.member? "countdown" = e.toJson.member? "countdown") := by
  constructor
  · simp [commonMembers, OpenDefenceRow.toJson, ScheduleRow.toJson, seatMembers, policyMembers,
      Json.member?, List.lookup_cons, h.prosecution, h.defendantLabel, h.seat, h.policy,
      h.scheduledFor]
  · intro hstatus
    simp [OpenDefenceRow.toJson, ScheduleRow.toJson, seatMembers, policyMembers, Json.member?,
      List.lookup_cons, h.countdown hstatus]

namespace Snapshot

variable (settings : Settings) (s : Snapshot)

/-- **The two panels agree on the same case.**  When a call says of a case what its record says,
the row of the call says of it what the row of the case says, in either bucket: who prosecutes and
who is accused, the seat with its badge, the policy and the time of the hearing, and the countdown
when the case is to be heard. -/
theorem callRow_agrees (b : Bucket) {o : OpenDefenceRecord} {r : CaseRecord} (h : o.CallsFor r) :
    (s.callRow settings o).AgreesWith (s.caseRow settings b r) ∧
    (∀ key ∈ commonMembers,
      (s.callRow settings o).toJson.member? key = (s.caseRow settings b r).toJson.member? key) ∧
    (r.status = .scheduled → (s.callRow settings o).toJson.member? "countdown" =
      (s.caseRow settings b r).toJson.member? "countdown") := by
  have hrows := (h.entries b).rows (s.viewpoint settings)
  exact ⟨hrows, hrows.member?_eq⟩

/-- A case to be heard whose defendant holds the seat, with a blank defence and a filing time that
is no time. -/
def listedCase : CaseRecord :=
  { id := "case-1", status := .scheduled
    scheduledFor := some "1970-02-01", createdAt := some "soon"
    prosecution := "alice-agent", defendant := some "bob-agent", defence := some " " }

/-- The call for a defence in this case. -/
def listedCall : OpenDefenceRecord :=
  { caseId := "case-1", prosecution := "alice-agent", defendant := some "bob-agent"
    defence := some " ", scheduledFor := some "1970-02-01", filedAt := some "soon" }

/-- The two rows of a case to be heard agree, its reservation without end and its countdown
included. -/
theorem callRow_agrees_listedCase :
    let s : Snapshot := { now := 0 }
    (listedCall.CallsFor listedCase ∧ listedCase.status = .scheduled) ∧
    (s.caseRow {} .active listedCase).seat = .reserved "bob-agent" none ∧
    (s.caseRow {} .active listedCase).countdown.isSome = true ∧
    (s.callRow {} listedCall).AgreesWith (s.caseRow {} .active listedCase) ∧
    (∀ key ∈ commonMembers, (s.callRow {} listedCall).toJson.member? key =
      (s.caseRow {} .active listedCase).toJson.member? key) ∧
    (s.callRow {} listedCall).toJson.member? "countdown" =
      (s.caseRow {} .active listedCase).toJson.member? "countdown" := by
  intro s
  have hcalls : listedCall.CallsFor listedCase := ⟨rfl, rfl, rfl, rfl, rfl, rfl⟩
  obtain ⟨hrows, hmembers, hcountdown⟩ := callRow_agrees {} s .active hcalls
  exact ⟨⟨hcalls, rfl⟩, by decide +kernel, by decide +kernel, hrows, hmembers, hcountdown rfl⟩

end Snapshot
end CourtDocket
