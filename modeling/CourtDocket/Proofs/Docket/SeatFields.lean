/-
# The fields of a row that show the seat

A row shows its seat in five fields.  `ShowsSeat` says of each what it must be, by the names and
the filing time that the publisher wrote, the window and the clock, and not by way of `Seat`; so it
holds the fields to one another as well.  `ShowsDefence` does the same for the label of the
defence, which only a row of the schedule has.  Every row of every panel satisfies them for the
record that it was made of.
-/

import CourtDocket.Proofs.Docket.Panel
import CourtDocket.Proofs.Seat

namespace CourtDocket

open Seat

/-- The member of an object with a given name. -/
def Json.member? (key : String) : Json → Option Json
  | .object members => members.lookup key
  | _ => none

/-- **What a row's document shows of a seat.** -/
structure ShowsSeat (window : Option Int64) (defence defendant : Option String)
    (filed : Option Timestamp) (now : Int64) (doc : Json) : Prop where
  /-- The seat is taken when a defence is named. -/
  taken_iff : doc.member? "claimStatus" = some (.string "taken") ↔ Named defence
  /-- Else it is reserved when a defendant is named whose reservation has not lapsed. -/
  reserved_iff : doc.member? "claimStatus" = some (.string "reserved") ↔
    ¬ Named defence ∧ Named defendant ∧ ¬ Lapsed window filed now
  /-- Else it is open. -/
  open_iff : doc.member? "claimStatus" = some (.string "open") ↔
    ¬ Named defence ∧ (Named defendant → Lapsed window filed now)
  /-- An open seat may be claimed and no other. -/
  claimable : ∃ c, doc.member? "claimable" = some (.bool c) ∧
    (c = true ↔ doc.member? "claimStatus" = some (.string "open"))
  /-- The badge names the state. -/
  badge : (doc.member? "claimBadge" = some (.string "Taken") ↔
      doc.member? "claimStatus" = some (.string "taken")) ∧
    (doc.member? "claimBadge" = some (.string "Reserved") ↔
      doc.member? "claimStatus" = some (.string "reserved")) ∧
    (doc.member? "claimBadge" = some (.string "Open") ↔
      doc.member? "claimStatus" = some (.string "open"))
  /-- The end of a reservation is shown when the seat is reserved and there is one. -/
  reservedUntil_iff : ∀ stop, doc.member? "reservedUntilMs" = some (.int stop) ↔
    doc.member? "claimStatus" = some (.string "reserved") ∧ EndsAt window filed stop
  /-- Else `null` is. -/
  reservedUntil_null : doc.member? "reservedUntilMs" = some .null ∨
    ∃ stop, doc.member? "reservedUntilMs" = some (.int stop)
  /-- The end that is shown is still to come. -/
  lt_reservedUntil : ∀ stop, doc.member? "reservedUntilMs" = some (.int stop) → now.toInt < stop
  /-- The label of the defendant is the name, unless the name is blank. -/
  defendantLabel_iff : ∀ a, defendant = some a →
    (doc.member? "defendantLabel" = some (.string a) ↔ Text.isBlank a = false)
  /-- A defendant that nobody names has the label of an open seat. -/
  defendantLabel : ¬ Named defendant →
    doc.member? "defendantLabel" = some (.string "Open defence")

/-- **What the document of a row of the schedule shows of the defence.** -/
structure ShowsDefence (defence : Option String) (doc : Json) : Prop where
  /-- The label of a taken seat is the name of the defence. -/
  taken : doc.member? "claimStatus" = some (.string "taken") →
    ∃ a, defence = some a ∧ doc.member? "defenceLabel" = some (.string a)
  /-- The label of any other seat is that of an open one. -/
  notTaken : doc.member? "claimStatus" ≠ some (.string "taken") →
    doc.member? "defenceLabel" = some (.string "Open defence")

namespace SeatStatus

/-- States of a seat have different names. -/
theorem name_inj {a b : SeatStatus} : a.name = b.name ↔ a = b := by
  cases a <;> cases b <;> decide

/-- States of a seat have different badges. -/
theorem badge_inj {a b : SeatStatus} : a.badge = b.badge ↔ a = b := by
  cases a <;> cases b <;> decide

/-- Just a vacant seat can be claimed. -/
theorem isClaimable_iff {a : SeatStatus} : a.isClaimable = true ↔ a = vacant := by
  cases a <;> decide

end SeatStatus

/-- A count that may be missing is told as an integer just when it is there and is that integer. -/
theorem Json.ofOption_count_eq_int_iff {n? : Option Int64} {i : ℤ} :
    Json.ofOption .count n? = .int i ↔ ∃ n, n? = some n ∧ n.toInt = i := by
  cases n? <;> simp [Json.ofOption, Json.count]

/-- The label of a vacant seat is not blank. -/
theorem isBlank_openDefenceLabel : Text.isBlank openDefenceLabel = false := by
  decide

/-- The label of a party is its name just when the name is not blank: a blank name gets the label
of an open seat, which is not blank. -/
theorem partyLabel_nonBlank_eq_iff {a : String} :
    partyLabel (Text.nonBlank (some a)) = a ↔ Text.isBlank a = false := by
  rw [partyLabel, Text.nonBlank, Option.filter_some]
  cases h : Text.isBlank a
  · exact iff_of_true rfl rfl
  · refine iff_of_false (fun e => ?_) (by decide)
    have hlabel := isBlank_openDefenceLabel
    rw [show openDefenceLabel = a from e, h] at hlabel
    cases hlabel

variable {window : Option Int64} {defence defendant : Option String} {filed : Option Timestamp}
  {now : Int64} {doc : Json}

/-- A document with the members of a seat as it is resolved shows that seat. -/
theorem showsSeat_of_members
    (hmembers : ∀ m ∈ seatMembers (resolve window defence defendant filed now),
      doc.member? m.1 = some m.2)
    (hlabel : doc.member? "defendantLabel" =
      some (.string (partyLabel (Text.nonBlank defendant)))) :
    ShowsSeat window defence defendant filed now doc := by
  set seat := resolve window defence defendant filed now with hseat
  simp only [seatMembers, List.forall_mem_cons] at hmembers
  obtain ⟨hstatus, hclaimable, huntil, hbadge, -⟩ := hmembers
  -- the document says of the seat what `resolve` says, so the facts about `resolve` carry over
  have hname : ∀ a : SeatStatus,
      doc.member? "claimStatus" = some (.string a.name) ↔ seat.status = a := fun a => by
    rw [hstatus, Option.some_inj, Json.string.injEq, SeatStatus.name_inj]
  have hbadgeName : ∀ a : SeatStatus, doc.member? "claimBadge" = some (.string a.badge) ↔
      doc.member? "claimStatus" = some (.string a.name) := fun a => by
    rw [hname, hbadge, Option.some_inj, Json.string.injEq, SeatStatus.badge_inj]
  have hstop : ∀ stop, doc.member? "reservedUntilMs" = some (.int stop) ↔
      ∃ n, seat.reservedUntil = some n ∧ n.toInt = stop := fun stop => by
    rw [huntil, Option.some_inj, Json.ofOption_count_eq_int_iff]
  refine
    { taken_iff := (hname .taken).trans status_resolve_eq_taken_iff
      reserved_iff := (hname .reserved).trans status_resolve_eq_reserved_iff
      open_iff := (hname .vacant).trans status_resolve_eq_vacant_iff
      claimable := ⟨_, hclaimable, SeatStatus.isClaimable_iff.trans (hname .vacant).symm⟩
      badge := ⟨hbadgeName .taken, hbadgeName .reserved, hbadgeName .vacant⟩
      reservedUntil_iff := fun stop => ?_
      reservedUntil_null := ?_
      lt_reservedUntil := fun stop h => ?_
      defendantLabel_iff := fun a ha => ?_
      defendantLabel := fun h => ?_ }
  · refine (hstop stop).trans ⟨?_, fun ⟨h, hends⟩ => ?_⟩
    · rintro ⟨n, hn, rfl⟩
      obtain ⟨h, hends⟩ := reservedUntil_resolve_eq_some_iff.1 hn
      exact ⟨(hname .reserved).2 h, hends⟩
    · obtain ⟨n, rfl⟩ := hends.exists_toInt
      exact ⟨n, reservedUntil_resolve_eq_some_iff.2 ⟨(hname .reserved).1 h, hends⟩, rfl⟩
  · rw [huntil]
    cases seat.reservedUntil with
    | none => exact Or.inl rfl
    | some n => exact Or.inr ⟨_, rfl⟩
  · obtain ⟨n, hn, rfl⟩ := (hstop stop).1 h
    exact Int64.lt_iff_toInt_lt.1 (lt_of_reservedUntil_resolve hn)
  · subst ha
    rw [hlabel, Option.some_inj, Json.string.injEq, partyLabel_nonBlank_eq_iff]
  · rw [hlabel, not_named_iff.1 h]
    rfl

/-- A document with the state of a seat as it is resolved and the label of the defence shows the
defence. -/
theorem showsDefence_of_members
    (hstatus : doc.member? "claimStatus" =
      some (.string (resolve window defence defendant filed now).status.name))
    (hlabel : doc.member? "defenceLabel" =
      some (.string (defenceLabel (Text.nonBlank defence)))) :
    ShowsDefence defence doc := by
  have htaken : doc.member? "claimStatus" = some (.string "taken") ↔ Named defence := by
    rw [hstatus, Option.some_inj, Json.string.injEq, ← status_resolve_eq_taken_iff,
      ← SeatStatus.name_inj]
    rfl
  rw [defenceLabel, Text.nonBlank_nonBlank] at hlabel
  constructor
  · intro h
    obtain ⟨a, ha⟩ := named_iff.1 (htaken.1 h)
    exact ⟨a, (Text.nonBlank_eq_some.1 ha).1, by rw [hlabel, ha]; rfl⟩
  · intro h
    rw [hlabel, not_named_iff.1 (htaken.not.1 h)]
    rfl

/-- The members of the seat are found in the document of a row of the schedule. -/
theorem ScheduleRow.member?_seatMembers (row : ScheduleRow) :
    ∀ m ∈ seatMembers row.seat, row.toJson.member? m.1 = some m.2 := by
  simp [seatMembers, ScheduleRow.toJson, Json.member?, List.lookup_cons]

/-- The members of the seat are found in the document of a row of the open defences. -/
theorem OpenDefenceRow.member?_seatMembers (row : OpenDefenceRow) :
    ∀ m ∈ seatMembers row.seat, row.toJson.member? m.1 = some m.2 := by
  simp [seatMembers, OpenDefenceRow.toJson, Json.member?, List.lookup_cons]

namespace Snapshot

variable (settings : Settings) (s : Snapshot)

/-- The row of a case shows the seat of its record. -/
theorem showsSeat_caseRow (b : Bucket) (r : CaseRecord) :
    ShowsSeat settings.reservationWindow r.defence r.defendant r.filingTime? s.now
      (s.caseRow settings b r).toJson := by
  have hmembers := (s.caseRow settings b r).member?_seatMembers
  rw [seat_caseRow] at hmembers
  exact showsSeat_of_members hmembers rfl

/-- The row of a case shows the defence of its record. -/
theorem showsDefence_caseRow (b : Bucket) (r : CaseRecord) :
    ShowsDefence r.defence (s.caseRow settings b r).toJson := by
  have hmembers := (s.caseRow settings b r).member?_seatMembers
  rw [seat_caseRow] at hmembers
  exact showsDefence_of_members (hmembers _ (List.mem_cons_self ..)) rfl

/-- The row of a call shows the seat of its record. -/
theorem showsSeat_callRow (r : OpenDefenceRecord) :
    ShowsSeat settings.reservationWindow r.defence r.defendant r.filingTime? s.now
      (s.callRow settings r).toJson := by
  have hmembers := (s.callRow settings r).member?_seatMembers
  rw [seat_callRow] at hmembers
  exact showsSeat_of_members hmembers rfl

/-- **Every row of every panel shows the seat of the record that it was made of.** -/
theorem showsSeat_of_mem_view :
    (∀ b, ∀ row ∈ (s.view settings).bucket b, ∃ r ∈ s.schedule.bucket b,
      row = s.caseRow settings b r ∧
        ShowsSeat settings.reservationWindow r.defence r.defendant r.filingTime? s.now row.toJson ∧
        ShowsDefence r.defence row.toJson) ∧
    ∀ row ∈ (s.view settings).openDefence, ∃ r ∈ s.openDefences,
      row = s.callRow settings r ∧
        ShowsSeat settings.reservationWindow r.defence r.defendant r.filingTime? s.now
          row.toJson := by
  constructor
  · intro b row hrow
    rw [bucket_view] at hrow
    obtain ⟨r, hr, rfl⟩ := List.mem_map.1 hrow
    exact ⟨r, s.mem_bucket_of_mem_shownCases hr, rfl, s.showsSeat_caseRow settings b r,
      s.showsDefence_caseRow settings b r⟩
  · intro row hrow
    rw [openDefence_view] at hrow
    obtain ⟨r, hr, rfl⟩ := List.mem_map.1 hrow
    exact ⟨r, s.mem_of_mem_shownCalls settings hr, rfl, s.showsSeat_callRow settings r⟩

/-- A docket a millisecond before the end of the 64-bit range: a defendant holds a seat up to that
end, which the window would overrun, since a blank name is no defence; another seat is taken. -/
def heldDocket : Snapshot :=
  { now := 9223372036854775806
    schedule := { scheduled := [
      { id := "case-1", status := .scheduled, createdAt := some "1970-01-02"
        defendant := some "bob-agent", defence := some " " }] }
    openDefences := [{ caseId := "case-2", defence := some "dana-agent" }] }

/-- The settings under which the window is as long as it can be. -/
def heldSettings : Settings :=
  { reservationWindow := some 9223372036854775807 }

/-- A reservation that ends with the range of the clock, and a seat that is taken. -/
theorem showsSeat_of_mem_view_heldDocket :
    (∃ row ∈ (heldDocket.view heldSettings).bucket .scheduled,
      row.seat = .reserved "bob-agent" (some 9223372036854775807) ∧
      ∃ r ∈ heldDocket.schedule.bucket .scheduled,
        row = heldDocket.caseRow heldSettings .scheduled r ∧
          ShowsSeat heldSettings.reservationWindow r.defence r.defendant r.filingTime?
            heldDocket.now row.toJson ∧
          ShowsDefence r.defence row.toJson) ∧
    ∃ row ∈ (heldDocket.view heldSettings).openDefence,
      row.seat = .taken "dana-agent" ∧
      ∃ r ∈ heldDocket.openDefences,
        row = heldDocket.callRow heldSettings r ∧
          ShowsSeat heldSettings.reservationWindow r.defence r.defendant r.filingTime?
            heldDocket.now row.toJson := by
  obtain ⟨hcases, hcalls⟩ := showsSeat_of_mem_view heldSettings heldDocket
  have hcase : ∃ row ∈ (heldDocket.view heldSettings).bucket .scheduled,
      row.seat = .reserved "bob-agent" (some 9223372036854775807) := by decide +kernel
  have hcall : ∃ row ∈ (heldDocket.view heldSettings).openDefence,
      row.seat = .taken "dana-agent" := by decide +kernel
  obtain ⟨row, hrow, hseat⟩ := hcase
  obtain ⟨row', hrow', hseat'⟩ := hcall
  exact ⟨⟨row, hrow, hseat, hcases _ row hrow⟩, ⟨row', hrow', hseat', hcalls row' hrow'⟩⟩

end Snapshot
end CourtDocket
