/-
# What is written of a snapshot is read back

The reader of each record undoes its document: the members that are written are the fields that
are read, under the same names, and no choice is written as a word that stands for another one.
The live counts are written in their order and read in it, so the map is the same whatever order
was chosen.

Since both texts of a document are read as its tree, reading undoes writing for whole texts
(`Snapshot.parse_toJson`).
-/

import CourtDocket.Proofs.Control
import CourtDocket.Proofs.Record.Fields

namespace CourtDocket

open Json

/-- Every status is found under its name. -/
theorem CaseStatus.lookup_name (s : CaseStatus) : CaseStatus.words.lookup s.name = some s := by
  cases s <;> decide

/-! ### Fields -/

/-- A text that may be missing is read back: `null` is written for a missing one. -/
theorem optional_string_undoes : (Reader.optional Reader.string).Undoes textJson :=
  Reader.optional_undoes Reader.string_undoes fun _ => by simp [node]

/-- A text with a fallback is read back; a text that is written is never `null`, so the fallback is
not asked for. -/
theorem lenient_string_undoes (fallback : String) :
    (Reader.orElse fallback Reader.string).Undoes .string :=
  Reader.orElse_undoes Reader.string_undoes (fun _ => by simp [node]) fallback

/-- A count with a fallback is read back, whichever the fallback is. -/
theorem lenient_count_undoes (fallback : Int64) :
    (Reader.orElse fallback Reader.int64).Undoes .count :=
  Reader.orElse_undoes Reader.int64_undoes (fun _ => by simp [node, count]) fallback

/-- A list of texts is read back, the empty one too. -/
theorem strings_undoes : (Reader.orElse [] (Reader.list Reader.string)).Undoes .strings :=
  Reader.orElse_undoes (Reader.list_undoes Reader.string_undoes) (fun _ => by simp [node]) []

/-! ### Records -/

/-- A tally is read back. -/
theorem VoteTally.read_undoes : VoteTally.record.read.Undoes VoteTally.toJson := by
  intro v
  have hcast : castField.ReadsFrom ("votesCast", .count v.cast) v.cast :=
    ⟨rfl, lenient_count_undoes 0 v.cast⟩
  have hjury : juryField.ReadsFrom ("jurySize", .count v.jury) v.jury :=
    ⟨rfl, lenient_count_undoes 0 v.jury⟩
  rw [toJson, Record.read_object (.cons hcast.accepts (.cons hjury.accepts .nil)) (by decide),
    build_eq_ok_iff]
  exact ⟨hcast.take rfl, hjury.take rfl⟩

/-- A case is read back: each of its eleven fields finds its own member among those written. -/
theorem CaseRecord.read_undoes : CaseRecord.record.read.Undoes CaseRecord.toJson := by
  intro c
  have hid : idField.ReadsFrom ("id", .string c.id) c.id :=
    ⟨rfl, Reader.string_undoes c.id⟩
  have hstatus : statusField.ReadsFrom ("status", .string c.status.name) c.status :=
    ⟨rfl, Reader.choice_undoes CaseStatus.lookup_name c.status⟩
  have hscheduledFor :
      scheduledForField.ReadsFrom ("scheduledForIso", textJson c.scheduledFor) c.scheduledFor :=
    ⟨rfl, optional_string_undoes c.scheduledFor⟩
  have hcreatedAt : createdAtField.ReadsFrom ("createdAtIso", textJson c.createdAt) c.createdAt :=
    ⟨rfl, optional_string_undoes c.createdAt⟩
  have hprosecution :
      prosecutionField.ReadsFrom ("prosecutionAgentId", .string c.prosecution) c.prosecution :=
    ⟨rfl, lenient_string_undoes "" c.prosecution⟩
  have hdefendant :
      defendantField.ReadsFrom ("defendantAgentId", textJson c.defendant) c.defendant :=
    ⟨rfl, optional_string_undoes c.defendant⟩
  have hdefence : defenceField.ReadsFrom ("defenceAgentId", textJson c.defence) c.defence :=
    ⟨rfl, optional_string_undoes c.defence⟩
  have hvotes : votesField.ReadsFrom ("voteSummary", c.votes.toJson) c.votes :=
    ⟨rfl, Reader.orElse_undoes VoteTally.read_undoes
      (fun _ => by simp [VoteTally.toJson, node]) {} c.votes⟩
  have hsummary : summaryField.ReadsFrom ("summary", .string c.summary) c.summary :=
    ⟨rfl, lenient_string_undoes "" c.summary⟩
  have htitle : titleField.ReadsFrom ("caseTitle", textJson c.title) c.title :=
    ⟨rfl, optional_string_undoes c.title⟩
  have htags : tagsField.ReadsFrom ("tags", .strings c.tags) c.tags :=
    ⟨rfl, strings_undoes c.tags⟩
  have hslots := List.Forall₂.cons hid.accepts <| .cons hstatus.accepts <|
    .cons hscheduledFor.accepts <| .cons hcreatedAt.accepts <| .cons hprosecution.accepts <|
    .cons hdefendant.accepts <| .cons hdefence.accepts <| .cons hvotes.accepts <|
    .cons hsummary.accepts <| .cons htitle.accepts <| .cons htags.accepts .nil
  rw [toJson, Record.read_object hslots (by decide), build_eq_ok_iff]
  exact ⟨hid.take rfl, hstatus.take rfl, hscheduledFor.take rfl, hcreatedAt.take rfl,
    hprosecution.take rfl, hdefendant.take rfl, hdefence.take rfl, hvotes.take rfl,
    hsummary.take rfl, htitle.take rfl, htags.take rfl⟩

open CaseRecord in
/-- A call for a defence is read back. -/
theorem OpenDefenceRecord.read_undoes :
    OpenDefenceRecord.record.read.Undoes OpenDefenceRecord.toJson := by
  intro r
  have hcaseId : caseIdField.ReadsFrom ("caseId", .string r.caseId) r.caseId :=
    ⟨rfl, Reader.string_undoes r.caseId⟩
  have hprosecution :
      prosecutionField.ReadsFrom ("prosecutionAgentId", .string r.prosecution) r.prosecution :=
    ⟨rfl, lenient_string_undoes "" r.prosecution⟩
  have hdefendant :
      defendantField.ReadsFrom ("defendantAgentId", textJson r.defendant) r.defendant :=
    ⟨rfl, optional_string_undoes r.defendant⟩
  have hdefence : defenceField.ReadsFrom ("defenceAgentId", textJson r.defence) r.defence :=
    ⟨rfl, optional_string_undoes r.defence⟩
  have hscheduledFor :
      scheduledForField.ReadsFrom ("scheduledForIso", textJson r.scheduledFor) r.scheduledFor :=
    ⟨rfl, optional_string_undoes r.scheduledFor⟩
  have hfiledAt : filedAtField.ReadsFrom ("filedAtIso", textJson r.filedAt) r.filedAt :=
    ⟨rfl, optional_string_undoes r.filedAt⟩
  have htags : tagsField.ReadsFrom ("tags", .strings r.tags) r.tags :=
    ⟨rfl, strings_undoes r.tags⟩
  have hslots := List.Forall₂.cons hcaseId.accepts <| .cons hprosecution.accepts <|
    .cons hdefendant.accepts <| .cons hdefence.accepts <| .cons hscheduledFor.accepts <|
    .cons hfiledAt.accepts <| .cons htags.accepts .nil
  rw [toJson, Record.read_object hslots (by decide), build_eq_ok_iff]
  exact ⟨hcaseId.take rfl, hprosecution.take rfl, hdefendant.take rfl, hdefence.take rfl,
    hscheduledFor.take rfl, hfiledAt.take rfl, htags.take rfl⟩

/-- A schedule is read back, each case of it in its place. -/
theorem Schedule.read_undoes : Schedule.record.read.Undoes Schedule.toJson := by
  intro s
  have hactive :
      activeField.ReadsFrom ("active", .array (s.active.map CaseRecord.toJson)) s.active :=
    ⟨rfl, Reader.list_undoes CaseRecord.read_undoes s.active⟩
  have hscheduled :
      scheduledField.ReadsFrom ("scheduled", .array (s.scheduled.map CaseRecord.toJson))
        s.scheduled :=
    ⟨rfl, Reader.list_undoes CaseRecord.read_undoes s.scheduled⟩
  rw [toJson, Record.read_object (.cons hactive.accepts (.cons hscheduled.accepts .nil))
    (by decide), build_eq_ok_iff]
  exact ⟨hactive.take rfl, hscheduled.take rfl⟩

/-- The settings of the schedule are read back. -/
theorem ScheduleControls.read_undoes :
    ScheduleControls.record.read.Undoes ScheduleControls.toJson := by
  intro c
  have hfilter : filterField.ReadsFrom ("filter", .string c.filter.name) c.filter :=
    ⟨rfl, Reader.choice_undoes BucketFilter.lookup_name c.filter⟩
  have horder : orderField.ReadsFrom ("sort", .string c.order.scheduleName) c.order :=
    ⟨rfl, Reader.choice_undoes TimeOrder.lookup_scheduleName c.order⟩
  have hquery : queryField.ReadsFrom ("query", .string c.query) c.query :=
    ⟨rfl, Reader.string_undoes c.query⟩
  rw [toJson, Record.read_object (.cons hfilter.accepts <| .cons horder.accepts <|
    .cons hquery.accepts .nil) (by decide), build_eq_ok_iff]
  exact ⟨hfilter.take rfl, horder.take rfl, hquery.take rfl⟩

/-- The settings of the open defences are read back. -/
theorem OpenDefenceControls.read_undoes :
    OpenDefenceControls.record.read.Undoes OpenDefenceControls.toJson := by
  intro c
  have hquery : queryField.ReadsFrom ("query", .string c.query) c.query :=
    ⟨rfl, Reader.string_undoes c.query⟩
  have htag : tagField.ReadsFrom ("tag", .string c.tag) c.tag :=
    ⟨rfl, Reader.string_undoes c.tag⟩
  have hstatus : statusField.ReadsFrom ("status", .string c.status.name) c.status :=
    ⟨rfl, Reader.choice_undoes SeatFilter.lookup_name c.status⟩
  have horder : orderField.ReadsFrom ("timeSort", .string c.order.startName) c.order :=
    ⟨rfl, Reader.choice_undoes TimeOrder.lookup_startName c.order⟩
  have hwindow : windowField.ReadsFrom ("startWindow", .string c.window.name) c.window :=
    ⟨rfl, Reader.choice_undoes StartWindow.lookup_name c.window⟩
  have hslots := List.Forall₂.cons hquery.accepts <| .cons htag.accepts <|
    .cons hstatus.accepts <| .cons horder.accepts <| .cons hwindow.accepts .nil
  rw [toJson, Record.read_object hslots (by decide), build_eq_ok_iff]
  exact ⟨hquery.take rfl, htag.take rfl, hstatus.take rfl, horder.take rfl, hwindow.take rfl⟩

namespace LiveVotes

/-- A count for a case without one goes to the end. -/
theorem entries_put {live : LiveVotes} {id : String} (h : id ∉ live.entries.map (·.1))
    (count : Int64) : (live.put id count).entries = live.entries ++ [(id, count)] := by
  have herase : live.entries.filter (·.1 ≠ id) = live.entries := by
    rw [List.filter_eq_self]
    intro e he
    have hne : e.1 ≠ id := fun hid => h (hid ▸ List.mem_map_of_mem he)
    simpa using hne
  show live.entries.filter (·.1 ≠ id) ++ [(id, count)] = _
  rw [herase]

/-- Counts of different cases, given one after another, are the counts in their order. -/
theorem ofList_entries (live : LiveVotes) : ofList live.entries = live := by
  have hfold : ∀ (counts : List (String × Int64)) (start : LiveVotes),
      ((start.entries ++ counts).map (·.1)).Nodup →
      (counts.foldl (fun live c => live.put c.1 c.2) start).entries = start.entries ++ counts := by
    intro counts
    induction counts with
    | nil => intro start _; simp
    | cons c counts ih =>
      intro start hnodup
      have hnew : c.1 ∉ start.entries.map (·.1) := by
        rw [List.map_append, List.nodup_append] at hnodup
        exact fun hmem => hnodup.2.2 _ hmem c.1 (by simp) rfl
      have hput := entries_put hnew c.2
      rw [List.foldl_cons, ih _ (by rw [hput]; simpa using hnodup), hput]
      simp
  have hentries : (ofList live.entries).entries = live.entries :=
    hfold live.entries empty live.nodup
  cases live
  cases h : ofList _
  rw [h] at hentries
  subst hentries
  rfl

/-- Live counts are read back, whatever the order of their entries. -/
theorem read_undoes : read.Undoes toJson := by
  intro live
  have hmap := Reader.map_undoes Reader.int64_undoes live.entries
  rw [read, toJson, hmap]
  exact congrArg Except.ok live.ofList_entries

end LiveVotes

/-- A snapshot is read back. -/
theorem Snapshot.read_undoes : Snapshot.record.read.Undoes Snapshot.toJson := by
  intro s
  have hnow : nowField.ReadsFrom ("nowMs", .count s.now) s.now :=
    ⟨rfl, Reader.int64_undoes s.now⟩
  have hschedule : scheduleField.ReadsFrom ("schedule", s.schedule.toJson) s.schedule :=
    ⟨rfl, Schedule.read_undoes s.schedule⟩
  have hopenDefences : openDefencesField.ReadsFrom
      ("openDefenceCases", .array (s.openDefences.map OpenDefenceRecord.toJson)) s.openDefences :=
    ⟨rfl, Reader.list_undoes OpenDefenceRecord.read_undoes s.openDefences⟩
  have hscheduleControls : scheduleControlsField.ReadsFrom
      ("scheduleControls", s.scheduleControls.toJson) s.scheduleControls :=
    ⟨rfl, ScheduleControls.read_undoes s.scheduleControls⟩
  have hopenDefenceControls : openDefenceControlsField.ReadsFrom
      ("openDefenceControls", s.openDefenceControls.toJson) s.openDefenceControls :=
    ⟨rfl, OpenDefenceControls.read_undoes s.openDefenceControls⟩
  have hlive : liveField.ReadsFrom ("liveVotes", s.live.toJson) s.live :=
    ⟨rfl, LiveVotes.read_undoes s.live⟩
  have hslots := List.Forall₂.cons hnow.accepts <| .cons hschedule.accepts <|
    .cons hopenDefences.accepts <| .cons hscheduleControls.accepts <|
    .cons hopenDefenceControls.accepts <| .cons hlive.accepts .nil
  rw [toJson, Record.read_object hslots (by decide), build_eq_ok_iff]
  exact ⟨hnow.take rfl, hschedule.take rfl, hopenDefences.take rfl, hscheduleControls.take rfl,
    hopenDefenceControls.take rfl, hlive.take rfl⟩

/-! ### Whole texts -/

/-- **What is written of a snapshot is read back**, from its text without white space as from its
text on several lines. -/
theorem Snapshot.parse_toJson (s : Snapshot) :
    Snapshot.parse (Symbol.ofString (String.ofList s.toJson.compact)) = .ok s ∧
      Snapshot.parse (Symbol.ofString (String.ofList s.toJson.indented)) = .ok s := by
  have htext : ∀ t : List Char, s.toJson.node.WrittenAs t →
      Snapshot.parse (Symbol.ofString (String.ofList t)) = .ok s := by
    intro t ht
    rw [parse, Reader.document_eq_ok_iff, ht.ofSymbols_ofString]
    exact ⟨read_undoes s, rfl⟩
  exact ⟨htext _ (writtenAs_compact _), htext _ (writtenAs_indentedAt 0 _)⟩

end CourtDocket
