/-
# Records are built field by field

A record is built just when each of its fields is taken, and then it has what was taken
(`CaseRecord.build_eq_ok_iff` and its like).  That is all that is known of the way records are
built: both the reading of written records and the reading of edited documents rest on it.
-/

import CourtDocket.Proofs.Json.Reader
import CourtDocket.Record.Snapshot

namespace CourtDocket

open Json

variable {node? : String → Option Node}

/-- A tally is built just of the two counts that its fields take. -/
theorem VoteTally.build_eq_ok_iff {v : VoteTally} :
    VoteTally.record.build node? = .ok v ↔
      castField.take node? = .ok v.cast ∧ juryField.take node? = .ok v.jury := by
  simp only [record, bind_eq_ok_iff]
  constructor
  · rintro ⟨cast, hcast, jury, hjury, h⟩
    cases h
    exact ⟨hcast, hjury⟩
  · rintro ⟨hcast, hjury⟩
    exact ⟨_, hcast, _, hjury, rfl⟩

/-- A case is built just of the eleven values that its fields take. -/
theorem CaseRecord.build_eq_ok_iff {c : CaseRecord} :
    CaseRecord.record.build node? = .ok c ↔
      idField.take node? = .ok c.id ∧ statusField.take node? = .ok c.status ∧
      scheduledForField.take node? = .ok c.scheduledFor ∧
      createdAtField.take node? = .ok c.createdAt ∧
      prosecutionField.take node? = .ok c.prosecution ∧
      defendantField.take node? = .ok c.defendant ∧ defenceField.take node? = .ok c.defence ∧
      votesField.take node? = .ok c.votes ∧ summaryField.take node? = .ok c.summary ∧
      titleField.take node? = .ok c.title ∧ tagsField.take node? = .ok c.tags := by
  simp only [record, bind_eq_ok_iff]
  constructor
  · rintro ⟨_, h₁, _, h₂, _, h₃, _, h₄, _, h₅, _, h₆, _, h₇, _, h₈, _, h₉, _, h₁₀, _, h₁₁, h⟩
    cases h
    exact ⟨h₁, h₂, h₃, h₄, h₅, h₆, h₇, h₈, h₉, h₁₀, h₁₁⟩
  · rintro ⟨h₁, h₂, h₃, h₄, h₅, h₆, h₇, h₈, h₉, h₁₀, h₁₁⟩
    exact ⟨_, h₁, _, h₂, _, h₃, _, h₄, _, h₅, _, h₆, _, h₇, _, h₈, _, h₉, _, h₁₀, _, h₁₁, rfl⟩

open CaseRecord in
/-- A call for a defence is built just of the seven values that its fields take. -/
theorem OpenDefenceRecord.build_eq_ok_iff {r : OpenDefenceRecord} :
    OpenDefenceRecord.record.build node? = .ok r ↔
      caseIdField.take node? = .ok r.caseId ∧ prosecutionField.take node? = .ok r.prosecution ∧
      defendantField.take node? = .ok r.defendant ∧ defenceField.take node? = .ok r.defence ∧
      scheduledForField.take node? = .ok r.scheduledFor ∧
      filedAtField.take node? = .ok r.filedAt ∧ tagsField.take node? = .ok r.tags := by
  simp only [record, bind_eq_ok_iff]
  constructor
  · rintro ⟨_, h₁, _, h₂, _, h₃, _, h₄, _, h₅, _, h₆, _, h₇, h⟩
    cases h
    exact ⟨h₁, h₂, h₃, h₄, h₅, h₆, h₇⟩
  · rintro ⟨h₁, h₂, h₃, h₄, h₅, h₆, h₇⟩
    exact ⟨_, h₁, _, h₂, _, h₃, _, h₄, _, h₅, _, h₆, _, h₇, rfl⟩

/-- A schedule is built just of the two lists of cases that its fields take. -/
theorem Schedule.build_eq_ok_iff {s : Schedule} :
    Schedule.record.build node? = .ok s ↔
      activeField.take node? = .ok s.active ∧ scheduledField.take node? = .ok s.scheduled := by
  simp only [record, bind_eq_ok_iff]
  constructor
  · rintro ⟨_, h₁, _, h₂, h⟩
    cases h
    exact ⟨h₁, h₂⟩
  · rintro ⟨h₁, h₂⟩
    exact ⟨_, h₁, _, h₂, rfl⟩

/-- The settings of the schedule are built just of the three values that their fields take. -/
theorem ScheduleControls.build_eq_ok_iff {c : ScheduleControls} :
    ScheduleControls.record.build node? = .ok c ↔
      filterField.take node? = .ok c.filter ∧ orderField.take node? = .ok c.order ∧
      queryField.take node? = .ok c.query := by
  simp only [record, bind_eq_ok_iff]
  constructor
  · rintro ⟨_, h₁, _, h₂, _, h₃, h⟩
    cases h
    exact ⟨h₁, h₂, h₃⟩
  · rintro ⟨h₁, h₂, h₃⟩
    exact ⟨_, h₁, _, h₂, _, h₃, rfl⟩

/-- The settings of the open defences are built just of the five values that their fields take. -/
theorem OpenDefenceControls.build_eq_ok_iff {c : OpenDefenceControls} :
    OpenDefenceControls.record.build node? = .ok c ↔
      queryField.take node? = .ok c.query ∧ tagField.take node? = .ok c.tag ∧
      statusField.take node? = .ok c.status ∧ orderField.take node? = .ok c.order ∧
      windowField.take node? = .ok c.window := by
  simp only [record, bind_eq_ok_iff]
  constructor
  · rintro ⟨_, h₁, _, h₂, _, h₃, _, h₄, _, h₅, h⟩
    cases h
    exact ⟨h₁, h₂, h₃, h₄, h₅⟩
  · rintro ⟨h₁, h₂, h₃, h₄, h₅⟩
    exact ⟨_, h₁, _, h₂, _, h₃, _, h₄, _, h₅, rfl⟩

/-- A snapshot is built just of the six values that its fields take. -/
theorem Snapshot.build_eq_ok_iff {s : Snapshot} :
    Snapshot.record.build node? = .ok s ↔
      nowField.take node? = .ok s.now ∧ scheduleField.take node? = .ok s.schedule ∧
      openDefencesField.take node? = .ok s.openDefences ∧
      scheduleControlsField.take node? = .ok s.scheduleControls ∧
      openDefenceControlsField.take node? = .ok s.openDefenceControls ∧
      liveField.take node? = .ok s.live := by
  simp only [record, bind_eq_ok_iff]
  constructor
  · rintro ⟨_, h₁, _, h₂, _, h₃, _, h₄, _, h₅, _, h₆, h⟩
    cases h
    exact ⟨h₁, h₂, h₃, h₄, h₅, h₆⟩
  · rintro ⟨h₁, h₂, h₃, h₄, h₅, h₆⟩
    exact ⟨_, h₁, _, h₂, _, h₃, _, h₄, _, h₅, _, h₆, rfl⟩

end CourtDocket
