/-
# Snapshots do not depend on the arrangement of their document

A snapshot, its cases, the calls for a defence, their tallies and the settings of the panels are
records (`Snapshot.shape` and its like); the live counts are an object whose names are free.  Each
of these records follows the arrangement of its document, the snapshot up to the order in which the
live counts were given (`Snapshot.read_follows`).

So a snapshot that is read from a text is read from every text of every other arrangement of the
same tree (`Snapshot.parse_rearranged`): with other white space, with the members of its objects in
another order and with members that no field has.
-/

import CourtDocket.Proofs.Json.Arrangement
import CourtDocket.Proofs.Record.Fields
import CourtDocket.Proofs.Record.RoundTrip

namespace CourtDocket

open Json

variable {node? node?' : String → Option Node}

/-! ### The shapes of the records -/

/-- The shape of a tally. -/
def VoteTally.shape : Shape :=
  record.shape []

/-- The shape of a case, whose tally is a record. -/
def CaseRecord.shape : Shape :=
  record.shape [("voteSummary", VoteTally.shape)]

/-- The shape of a call for a defence. -/
def OpenDefenceRecord.shape : Shape :=
  record.shape []

/-- The shape of the cases. -/
def Schedule.shape : Shape :=
  record.shape [("active", .list CaseRecord.shape), ("scheduled", .list CaseRecord.shape)]

/-- The shape of the settings of the schedule. -/
def ScheduleControls.shape : Shape :=
  record.shape []

/-- The shape of the settings of the open defences. -/
def OpenDefenceControls.shape : Shape :=
  record.shape []

/-- The shape of a snapshot. -/
def Snapshot.shape : Shape :=
  record.shape [("schedule", Schedule.shape),
    ("openDefenceCases", .list OpenDefenceRecord.shape),
    ("scheduleControls", ScheduleControls.shape),
    ("openDefenceControls", OpenDefenceControls.shape)]

/-! ### The live counts -/

namespace LiveVotes

variable {live live' : LiveVotes} {id : String} {count : Int64}

/-- The count of a case is the one with which its id stands among the entries. -/
theorem get?_eq_some_iff : live.get? id = some count ↔ (id, count) ∈ live.entries := by
  obtain ⟨entries, hnodup⟩ := live
  show entries.lookup id = some count ↔ (id, count) ∈ entries
  induction entries with
  | nil => simp
  | cons e entries ih =>
    obtain ⟨k, n⟩ := e
    rw [List.map_cons, List.nodup_cons] at hnodup
    rw [List.lookup_cons, List.mem_cons, Prod.mk.injEq]
    by_cases hk : id = k
    · subst hk
      have hnew : (id, count) ∉ entries := fun hmem => hnodup.1 (List.mem_map.2 ⟨_, hmem, rfl⟩)
      simp [hnew, eq_comm]
    · rw [beq_false_of_ne hk, or_iff_right fun h => hk h.1]
      exact ih hnodup.2

/-- The order in which counts were given does not matter. -/
theorem get?_perm (h : live.entries.Perm live'.entries) (id : String) :
    live'.get? id = live.get? id := by
  refine Option.ext fun count => ?_
  rw [get?_eq_some_iff, get?_eq_some_iff, h.mem_iff]

/-- Counts of different cases are entered as they stand, none in the place of another. -/
theorem entries_ofList {counts : List (String × Int64)} (h : (counts.map (·.1)).Nodup) :
    (ofList counts).entries = counts :=
  congrArg entries (ofList_entries ⟨counts, h⟩)

/-- Whether a count is read from a member. -/
def ReadsCount (m : RawString × Node) (c : String × Int64) : Prop :=
  m.1.text = .ok c.1 ∧ Reader.int64 m.2 = .ok c.2

/-- An object is read as counts just when each of its members is read as one, in the same order. -/
theorem members_eq_ok_iff {ms : List (RawString × Node)} {counts : List (String × Int64)} :
    Reader.members Reader.int64 (.ofList ms) = .ok counts ↔ List.Forall₂ ReadsCount ms counts := by
  induction ms generalizing counts with
  | nil =>
    rw [List.forall₂_nil_left_iff]
    exact ⟨fun h => (Except.ok.inj h).symm, fun h => congrArg Except.ok h.symm⟩
  | cons m ms ih =>
    obtain ⟨key, v⟩ := m
    simp only [Members.ofList, Reader.members, bind_eq_ok_iff, orMalformed_eq_ok_iff,
      List.forall₂_cons_left_iff, ih]
    constructor
    · rintro ⟨k, hk, n, hn, counts, hcounts, h⟩
      cases h
      exact ⟨(k, n), counts, ⟨hk, hn⟩, hcounts, rfl⟩
    · rintro ⟨c, counts, ⟨hk, hn⟩, hcounts, rfl⟩
      exact ⟨_, hk, _, hn, _, hcounts, rfl⟩

/-- The names of the members are the ids of the counts read from them. -/
theorem texts_eq {ms : List (RawString × Node)} {counts : List (String × Int64)}
    (h : List.Forall₂ ReadsCount ms counts) :
    ms.map (·.1.text) = counts.map fun c => .ok c.1 := by
  induction h with
  | nil => rfl
  | cons hm _ ih => rw [List.map_cons, List.map_cons, hm.1, ih]

/-- Counts whose names differ are those of different cases. -/
theorem nodup_of_namesDiffer {ms : List (RawString × Node)} {counts : List (String × Int64)}
    (hdiffer : NamesDiffer ms) (h : List.Forall₂ ReadsCount ms counts) :
    (counts.map (·.1)).Nodup := by
  have htexts : (ms.map (·.1.text)).Pairwise fun x y => ∀ k, x = .ok k → y ≠ .ok k :=
    List.pairwise_map.2 hdiffer
  rw [texts_eq h, List.pairwise_map] at htexts
  rw [List.Nodup, List.pairwise_map]
  refine htexts.imp fun hne heq => ?_
  exact hne _ rfl (congrArg _ heq.symm)

/-- The value of each member from which counts are read is a count. -/
theorem exists_of_readsCount {ms ns : List (RawString × Node)} {key : RawString} {v : Node}
    {counts : List (String × Int64)} (h : List.Forall₂ ReadsCount (ms ++ (key, v) :: ns) counts) :
    ∃ n, Reader.int64 v = .ok n := by
  induction ms generalizing counts with
  | nil =>
    cases h with
    | cons hm _ => exact ⟨_, hm.2⟩
  | cons m ms ih =>
    cases h with
    | cons _ h => exact ih h

/-- **The order of the live counts does not matter** for the count of a case. -/
theorem read_follows : read.Follows get? .plain where
  skip v live hread := by
    rw [read, map_eq_ok_iff] at hread
    obtain ⟨counts, hread, -⟩ := hread
    cases v with
    | object ms => exact Reader.skip_of_members (Reader.int64_follows (fun n => n)).skip hread
    | _ => exact absurd hread Reader.refuse_ne_ok
  keeps := by
    rintro v v' live ⟨h⟩ hread
    rw [read, map_eq_ok_iff] at hread
    obtain ⟨counts, hread, rfl⟩ := hread
    cases h with
    | @object ms ms' hdiffer hperm =>
      have hcounts := members_eq_ok_iff.1 hread
      obtain ⟨counts', hcounts', hperm'⟩ := List.perm_comp_forall₂ hperm.symm hcounts
      refine ⟨ofList counts', ?_, funext fun id => (get?_perm ?_ id)⟩
      · rw [read, map_eq_ok_iff]
        exact ⟨counts', members_eq_ok_iff.2 hcounts', rfl⟩
      · rw [entries_ofList (nodup_of_namesDiffer hdiffer hcounts),
          entries_ofList (nodup_of_namesDiffer (hdiffer.perm hperm) hcounts')]
        exact hperm'.symm
    | item => exact absurd hread Reader.refuse_ne_ok
    | member h =>
      -- a count is no list and no object
      obtain ⟨n, hn⟩ := exists_of_readsCount (members_eq_ok_iff.1 hread)
      cases h <;> exact absurd hn Reader.refuse_ne_ok

end LiveVotes

/-! ### The records -/

/-- A tally is the same in any arrangement. -/
theorem VoteTally.read_follows : record.read.Follows (fun t => t) shape := by
  have hcast : castField.read.Follows (fun n => n) .plain := (Reader.int64_follows _).orElse 0
  have hjury : juryField.read.Follows (fun n => n) .plain := (Reader.int64_follows _).orElse 0
  refine Record.read_follows ?_ fun node? node?' t hlooked hbuild => ?_
  · simp only [record, List.forall_mem_cons]
    exact ⟨hcast.slot, hjury.slot, List.forall_mem_nil _⟩
  · obtain ⟨h₁, h₂⟩ := build_eq_ok_iff.1 hbuild
    refine ⟨t, build_eq_ok_iff.2 ⟨?_, ?_⟩, rfl⟩
    · exact hcast.take (hlooked castField.name (by decide)) h₁
    · exact hjury.take (hlooked juryField.name (by decide)) h₂

/-- A case is the same in any arrangement, its tally included. -/
theorem CaseRecord.read_follows : record.read.Follows (fun c => c) shape := by
  have hstring := Reader.string_follows fun s => s
  have hid : idField.read.Follows (fun s => s) .plain := hstring
  have hstatus : statusField.read.Follows (fun s => s) .plain := Reader.choice_follows _ _
  have hscheduledFor : scheduledForField.read.Follows (fun s => s) .plain := hstring.optional
  have hcreatedAt : createdAtField.read.Follows (fun s => s) .plain := hstring.optional
  have hprosecution : prosecutionField.read.Follows (fun s => s) .plain := hstring.orElse ""
  have hdefendant : defendantField.read.Follows (fun s => s) .plain := hstring.optional
  have hdefence : defenceField.read.Follows (fun s => s) .plain := hstring.optional
  have hvotes : votesField.read.Follows (fun t => t) VoteTally.shape :=
    VoteTally.read_follows.orElse {}
  have hsummary : summaryField.read.Follows (fun s => s) .plain := hstring.orElse ""
  have htitle : titleField.read.Follows (fun s => s) .plain := hstring.optional
  have htags : tagsField.read.Follows (fun ts => ts) .plain := hstring.list.plain.orElse []
  refine Record.read_follows ?_ fun node? node?' c hlooked hbuild => ?_
  · simp only [record, List.forall_mem_cons]
    exact ⟨hid.slot, hstatus.slot, hscheduledFor.slot, hcreatedAt.slot, hprosecution.slot,
      hdefendant.slot, hdefence.slot, hvotes.slot, hsummary.slot, htitle.slot, htags.slot,
      List.forall_mem_nil _⟩
  · obtain ⟨h₁, h₂, h₃, h₄, h₅, h₆, h₇, h₈, h₉, h₁₀, h₁₁⟩ := build_eq_ok_iff.1 hbuild
    refine ⟨c, build_eq_ok_iff.2 ⟨?_, ?_, ?_, ?_, ?_, ?_, ?_, ?_, ?_, ?_, ?_⟩, rfl⟩
    · exact hid.take (hlooked idField.name (by decide)) h₁
    · exact hstatus.take (hlooked statusField.name (by decide)) h₂
    · exact hscheduledFor.take (hlooked scheduledForField.name (by decide)) h₃
    · exact hcreatedAt.take (hlooked createdAtField.name (by decide)) h₄
    · exact hprosecution.take (hlooked prosecutionField.name (by decide)) h₅
    · exact hdefendant.take (hlooked defendantField.name (by decide)) h₆
    · exact hdefence.take (hlooked defenceField.name (by decide)) h₇
    · exact hvotes.take (hlooked votesField.name (by decide)) h₈
    · exact hsummary.take (hlooked summaryField.name (by decide)) h₉
    · exact htitle.take (hlooked titleField.name (by decide)) h₁₀
    · exact htags.take (hlooked tagsField.name (by decide)) h₁₁

open CaseRecord in
/-- A call for a defence is the same in any arrangement. -/
theorem OpenDefenceRecord.read_follows : record.read.Follows (fun r => r) shape := by
  have hstring := Reader.string_follows fun s => s
  have hcaseId : caseIdField.read.Follows (fun s => s) .plain := hstring
  have hprosecution : prosecutionField.read.Follows (fun s => s) .plain := hstring.orElse ""
  have hdefendant : defendantField.read.Follows (fun s => s) .plain := hstring.optional
  have hdefence : defenceField.read.Follows (fun s => s) .plain := hstring.optional
  have hscheduledFor : scheduledForField.read.Follows (fun s => s) .plain := hstring.optional
  have hfiledAt : filedAtField.read.Follows (fun s => s) .plain := hstring.optional
  have htags : tagsField.read.Follows (fun ts => ts) .plain := hstring.list.plain.orElse []
  refine Record.read_follows ?_ fun node? node?' r hlooked hbuild => ?_
  · simp only [record, List.forall_mem_cons]
    exact ⟨hcaseId.slot, hprosecution.slot, hdefendant.slot, hdefence.slot, hscheduledFor.slot,
      hfiledAt.slot, htags.slot, List.forall_mem_nil _⟩
  · obtain ⟨h₁, h₂, h₃, h₄, h₅, h₆, h₇⟩ := build_eq_ok_iff.1 hbuild
    refine ⟨r, build_eq_ok_iff.2 ⟨?_, ?_, ?_, ?_, ?_, ?_, ?_⟩, rfl⟩
    · exact hcaseId.take (hlooked caseIdField.name (by decide)) h₁
    · exact hprosecution.take (hlooked prosecutionField.name (by decide)) h₂
    · exact hdefendant.take (hlooked defendantField.name (by decide)) h₃
    · exact hdefence.take (hlooked defenceField.name (by decide)) h₄
    · exact hscheduledFor.take (hlooked scheduledForField.name (by decide)) h₅
    · exact hfiledAt.take (hlooked filedAtField.name (by decide)) h₆
    · exact htags.take (hlooked tagsField.name (by decide)) h₇

/-- A schedule is the same in any arrangement, its cases included. -/
theorem Schedule.read_follows : record.read.Follows (fun s => s) shape := by
  have hactive : activeField.read.Follows (fun cs => cs) (.list CaseRecord.shape) :=
    CaseRecord.read_follows.list
  have hscheduled : scheduledField.read.Follows (fun cs => cs) (.list CaseRecord.shape) :=
    CaseRecord.read_follows.list
  refine Record.read_follows ?_ fun node? node?' s hlooked hbuild => ?_
  · simp only [record, List.forall_mem_cons]
    exact ⟨hactive.slot, hscheduled.slot, List.forall_mem_nil _⟩
  · obtain ⟨h₁, h₂⟩ := build_eq_ok_iff.1 hbuild
    refine ⟨s, build_eq_ok_iff.2 ⟨?_, ?_⟩, rfl⟩
    · exact hactive.take (hlooked activeField.name (by decide)) h₁
    · exact hscheduled.take (hlooked scheduledField.name (by decide)) h₂

/-- The settings of the schedule are the same in any arrangement. -/
theorem ScheduleControls.read_follows : record.read.Follows (fun c => c) shape := by
  have hfilter : filterField.read.Follows (fun f => f) .plain := Reader.choice_follows _ _
  have horder : orderField.read.Follows (fun o => o) .plain := Reader.choice_follows _ _
  have hquery : queryField.read.Follows (fun s => s) .plain := Reader.string_follows _
  refine Record.read_follows ?_ fun node? node?' c hlooked hbuild => ?_
  · simp only [record, List.forall_mem_cons]
    exact ⟨hfilter.slot, horder.slot, hquery.slot, List.forall_mem_nil _⟩
  · obtain ⟨h₁, h₂, h₃⟩ := build_eq_ok_iff.1 hbuild
    refine ⟨c, build_eq_ok_iff.2 ⟨?_, ?_, ?_⟩, rfl⟩
    · exact hfilter.take (hlooked filterField.name (by decide)) h₁
    · exact horder.take (hlooked orderField.name (by decide)) h₂
    · exact hquery.take (hlooked queryField.name (by decide)) h₃

/-- The settings of the open defences are the same in any arrangement. -/
theorem OpenDefenceControls.read_follows : record.read.Follows (fun c => c) shape := by
  have hquery : queryField.read.Follows (fun s => s) .plain := Reader.string_follows _
  have htag : tagField.read.Follows (fun s => s) .plain := Reader.string_follows _
  have hstatus : statusField.read.Follows (fun f => f) .plain := Reader.choice_follows _ _
  have horder : orderField.read.Follows (fun o => o) .plain := Reader.choice_follows _ _
  have hwindow : windowField.read.Follows (fun w => w) .plain := Reader.choice_follows _ _
  refine Record.read_follows ?_ fun node? node?' c hlooked hbuild => ?_
  · simp only [record, List.forall_mem_cons]
    exact ⟨hquery.slot, htag.slot, hstatus.slot, horder.slot, hwindow.slot, List.forall_mem_nil _⟩
  · obtain ⟨h₁, h₂, h₃, h₄, h₅⟩ := build_eq_ok_iff.1 hbuild
    refine ⟨c, build_eq_ok_iff.2 ⟨?_, ?_, ?_, ?_, ?_⟩, rfl⟩
    · exact hquery.take (hlooked queryField.name (by decide)) h₁
    · exact htag.take (hlooked tagField.name (by decide)) h₂
    · exact hstatus.take (hlooked statusField.name (by decide)) h₃
    · exact horder.take (hlooked orderField.name (by decide)) h₄
    · exact hwindow.take (hlooked windowField.name (by decide)) h₅

/-! ### Snapshots -/

namespace Snapshot

/-- What does not depend on the order of the live counts: all but the list of them. -/
def unordered (s : Snapshot) : Snapshot × (String → Option Int64) :=
  ({ s with live := .empty }, s.live.get?)

/-- **A snapshot follows the arrangement of its document**, up to the order of its live counts. -/
theorem read_follows : record.read.Follows unordered shape := by
  have hnow : nowField.read.Follows (fun n => n) .plain := Reader.int64_follows _
  have hschedule : scheduleField.read.Follows (fun s => s) Schedule.shape := Schedule.read_follows
  have hopenDefences :
      openDefencesField.read.Follows (fun rs => rs) (.list OpenDefenceRecord.shape) :=
    OpenDefenceRecord.read_follows.list
  have hscheduleControls :
      scheduleControlsField.read.Follows (fun c => c) ScheduleControls.shape :=
    ScheduleControls.read_follows
  have hopenDefenceControls :
      openDefenceControlsField.read.Follows (fun c => c) OpenDefenceControls.shape :=
    OpenDefenceControls.read_follows
  have hlive : liveField.read.Follows LiveVotes.get? .plain := LiveVotes.read_follows
  refine Record.read_follows ?_ fun node? node?' s hlooked hbuild => ?_
  · simp only [record, List.forall_mem_cons]
    exact ⟨hnow.slot, hschedule.slot, hopenDefences.slot, hscheduleControls.slot,
      hopenDefenceControls.slot, hlive.slot, List.forall_mem_nil _⟩
  · obtain ⟨h₁, h₂, h₃, h₄, h₅, h₆⟩ := build_eq_ok_iff.1 hbuild
    obtain ⟨live, h₆, hkeep⟩ := hlive.field (hlooked liveField.name (by decide)) h₆
    refine ⟨{ s with live }, build_eq_ok_iff.2 ⟨?_, ?_, ?_, ?_, ?_, h₆⟩, ?_⟩
    · exact hnow.take (hlooked nowField.name (by decide)) h₁
    · exact hschedule.take (hlooked scheduleField.name (by decide)) h₂
    · exact hopenDefences.take (hlooked openDefencesField.name (by decide)) h₃
    · exact hscheduleControls.take (hlooked scheduleControlsField.name (by decide)) h₄
    · exact hopenDefenceControls.take (hlooked openDefenceControlsField.name (by decide)) h₅
    · exact congrArg (Prod.mk { s with live := .empty }) hkeep

variable {text : String} {s : Snapshot}

/-- **The arrangement of a document does not matter.**  A text that is read as a snapshot spells a
tree.  Every text of that tree, with other white space, and every text of another arrangement of it
is read as the same snapshot, with the same live count for every case. -/
theorem parse_rearranged (hparse : parse (Symbol.ofString text) = .ok s) :
    (∃ v : Node, v.SpelledBy text) ∧ ∀ (v v' : Node) (text' : String), v.SpelledBy text →
      Relation.ReflTransGen (Node.Rearranges shape) v v' → v'.SpelledBy text' →
      ∃ s', parse (Symbol.ofString text') = .ok s' ∧ { s' with live := s.live } = s ∧
        ∀ id, s'.live.get? id = s.live.get? id := by
  rw [parse, Reader.document_eq_ok_iff] at hparse
  obtain ⟨hread, hmore⟩ := hparse
  refine ⟨⟨(Node.ofString text).1, ?_⟩, fun v v' text' hv hedits hv' => ?_⟩
  · exact Node.spelledBy_iff.2 ⟨Prod.ext rfl hmore, read_follows.skip hread⟩
  · obtain ⟨htree, -⟩ := Node.spelledBy_iff.1 hv
    obtain ⟨htree', -⟩ := Node.spelledBy_iff.1 hv'
    rw [Node.ofString] at htree htree'
    rw [htree] at hread
    obtain ⟨s', hread', hkeep⟩ := read_follows.keeps.reflTransGen hedits hread
    obtain ⟨hrest, hlive⟩ := Prod.mk.inj hkeep
    refine ⟨s', ?_, congrArg (fun t : Snapshot => { t with live := s.live }) hrest,
      fun id => congrFun hlive id⟩
    rw [parse, Reader.document_eq_ok_iff, htree']
    exact ⟨hread', rfl⟩

/-- A document with live counts and a case with further members. -/
def arrangedJson (counts inCase : List (String × Json)) : Json :=
  .object [("liveVotes", .object counts),
    ("schedule", .object [("active", .array [.object (inCase ++ [("id", .string "case-1"),
      ("status", .string "active")])])]), ("nowMs", .count 0)]

/-- The snapshot of such a document. -/
def arrangedDocket : Snapshot :=
  { now := 0
    schedule := { active := [{ id := "case-1", status := .active }] }
    live := .ofList [("case-1", 3), ("case-2", 4)] }

/-- A swap of two live counts and a new member in a case lead from one document to the other. -/
theorem arranged_rearranges : Relation.ReflTransGen (Node.Rearranges shape)
    (arrangedJson [("case-1", .count 3), ("case-2", .count 4)] []).node
    (arrangedJson [("case-2", .count 4), ("case-1", .count 3)]
      [("next", .array [.object [("id", .null)]])]).node := by
  have hkey := RawString.text_ofString
  have hcounts : Node.Reorders
      (node (.object [("case-1", .count 3), ("case-2", .count 4)]))
      (node (.object [("case-2", .count 4), ("case-1", .count 3)])) :=
    .object (namesDiffer_memberNodes (by decide)) (List.Perm.swap ..)
  have hcase : Node.Rearranges CaseRecord.shape
      (node (.object [("id", .string "case-1"), ("status", .string "active")]))
      (node (.object [("next", .array [.object [("id", .null)]]), ("id", .string "case-1"),
        ("status", .string "active")])) :=
    @Node.Rearranges.insert _ _ [] _ _ "next" _ (hkey _) (by decide) rfl
  have hcases : Node.Rearranges Schedule.shape _ _ :=
    @Node.Rearranges.field _ _ [] [] _ "active" _ _ (hkey _)
      (@Node.Rearranges.item _ [] [] _ _ hcase)
  refine (Relation.ReflTransGen.single (.reorder ?_)).tail
    (@Node.Rearranges.field _ _ [_] _ _ "schedule" _ _ (hkey _) hcases)
  exact @Node.Reorders.member [] _ _ _ _ hcounts

/-- A document with live counts, arranged otherwise in another text, is read as the same
snapshot. -/
theorem parse_rearranged_arrangedDocket : ∃ (v v' : Node) (text text' : String),
    parse (Symbol.ofString text) = .ok arrangedDocket ∧ v.SpelledBy text ∧
      Relation.ReflTransGen (Node.Rearranges shape) v v' ∧ v'.SpelledBy text' ∧ text ≠ text' ∧
      ∃ s', parse (Symbol.ofString text') = .ok s' ∧
        { s' with live := arrangedDocket.live } = arrangedDocket ∧
        ∀ id, s'.live.get? id = arrangedDocket.live.get? id := by
  have hv := (writtenAs_compact
    (arrangedJson [("case-1", .count 3), ("case-2", .count 4)] [])).spelledBy rfl
  have hv' := (writtenAs_indentedAt 0
    (arrangedJson [("case-2", .count 4), ("case-1", .count 3)]
      [("next", .array [.object [("id", .null)]])])).spelledBy rfl
  have hparse : parse (Symbol.ofString (String.ofList
      (arrangedJson [("case-1", .count 3), ("case-2", .count 4)] []).compact)) =
        .ok arrangedDocket := by
    rw [parse, Reader.document_eq_ok_iff, (writtenAs_compact _).ofSymbols_ofString]
    exact ⟨rfl, rfl⟩
  refine ⟨_, _, _, _, hparse, hv, arranged_rearranges, hv', by decide +kernel, ?_⟩
  exact (parse_rearranged hparse).2 _ _ _ hv arranged_rearranges hv'

end Snapshot

end CourtDocket
