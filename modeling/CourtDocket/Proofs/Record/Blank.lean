/-
# Blank values are as good as none

A field that a published record may lack may also be `null`, and a text may be empty; a title, a
defendant, a defence and a time may even be nothing but white space:

| field | blank values |
| --- | --- |
| `prosecutionAgentId`, `summary` | `null`, the empty text |
| `caseTitle`, `defendantAgentId`, `defenceAgentId`, the times | `null`, texts of white space |
| `tags`, `voteSummary`, `votesCast`, `jurySize` | `null` |

The entry made of a record that gains a blank value is the entry made of it before.  So the docket
and its events do not change when a blank value is written where a record lacks it
(`Snapshot.read_keeps`), nor when any number of them are (`Snapshot.parse_writesBlank`).
-/

import CourtDocket.Docket.Log
import CourtDocket.Proofs.Json.Blank
import CourtDocket.Proofs.Record.Fields

namespace CourtDocket

open Json

/-! ### Writing blank values -/

/-- The blank values of the fields of a tally. -/
def VoteTally.blanks : Blanks :=
  [("votesCast", Node.IsNull), ("jurySize", Node.IsNull)]

/-- The blank values of the fields of a case. -/
def CaseRecord.blanks : Blanks :=
  [("scheduledForIso", Node.IsBlankText), ("createdAtIso", Node.IsBlankText),
    ("prosecutionAgentId", Node.IsEmptyText), ("defendantAgentId", Node.IsBlankText),
    ("defenceAgentId", Node.IsBlankText), ("voteSummary", Node.IsNull),
    ("summary", Node.IsEmptyText), ("caseTitle", Node.IsBlankText), ("tags", Node.IsNull)]

/-- The blank values of the fields of a call for a defence. -/
def OpenDefenceRecord.blanks : Blanks :=
  [("prosecutionAgentId", Node.IsEmptyText), ("defendantAgentId", Node.IsBlankText),
    ("defenceAgentId", Node.IsBlankText), ("scheduledForIso", Node.IsBlankText),
    ("filedAtIso", Node.IsBlankText), ("tags", Node.IsNull)]

/-- A case gains a blank value, or its tally does. -/
inductive CaseRecord.WritesBlank (v v' : Node) : Prop where
  | field (h : Node.GainsBlank blanks v v')
  | tally (h : record.AtField "voteSummary" (Node.GainsBlank VoteTally.blanks) v v')

/-- A blank value is written into one of the cases. -/
inductive Schedule.WritesBlank (v v' : Node) : Prop where
  | active (h : record.AtField "active" (Node.AtItem CaseRecord.WritesBlank) v v')
  | scheduled (h : record.AtField "scheduled" (Node.AtItem CaseRecord.WritesBlank) v v')

/-- A blank value is written into one of the cases or of the calls for a defence. -/
inductive Snapshot.WritesBlank (v v' : Node) : Prop where
  | schedule (h : record.AtField "schedule" Schedule.WritesBlank v v')
  | openDefences (h : record.AtField "openDefenceCases"
      (Node.AtItem (Node.GainsBlank OpenDefenceRecord.blanks)) v v')

/-! ### Texts -/

namespace Json.RecordField

variable {blanks : Blanks} {name : String}

/-- A blank title or name is dropped, as if it had been missing. -/
theorem optional_ignores_nonBlank (h : blanks.lookup name = some Node.IsBlankText) :
    (optional name Reader.string).Ignores Text.nonBlank blanks := by
  refine optional_ignores_blankText h fun s hs => ?_
  simp [Text.nonBlank, Option.filter, hs]

/-- A blank time is no time, and no malformed one. -/
theorem optional_ignores_ofText (h : blanks.lookup name = some Node.IsBlankText) :
    (optional name Reader.string).Ignores Reading.ofText blanks :=
  optional_ignores_blankText h fun _ hs => if_pos hs

end Json.RecordField

/-! ### Records -/

/-- A tally stays as it is when a blank count is written into it: an absent count is zero too. -/
theorem VoteTally.read_keeps :
    VoteTally.record.read.Keeps (fun t => t) (Node.GainsBlank VoteTally.blanks) := by
  intro v v' t hedit hread
  have hcast : castField.Ignores (fun n => n) blanks := RecordField.lenient_ignores_null rfl ..
  have hjury : juryField.Ignores (fun n => n) blanks := RecordField.lenient_ignores_null rfl ..
  have hslots : ∀ slot ∈ record.slots, slot.AcceptsBlank blanks := by
    simp only [record, List.forall_mem_cons]
    exact ⟨hcast.acceptsBlank, hjury.acceptsBlank, List.forall_mem_nil _⟩
  obtain ⟨node?, node?', hbuild, hread', hwritten⟩ :=
    Record.read_gainsBlank (by decide) (by decide) hslots hedit hread
  obtain ⟨h₁, h₂⟩ := build_eq_ok_iff.1 hbuild
  refine ⟨t, hread'.trans (build_eq_ok_iff.2 ⟨?_, ?_⟩), rfl⟩
  · exact (hcast.keeps hwritten).take h₁
  · exact (hjury.keeps hwritten).take h₂

namespace CaseRecord

/-- What the docket makes of a case. -/
abbrev entries (c : CaseRecord) (b : Bucket) : CaseEntry :=
  CaseEntry.ofRecord b c

/-- The entries of a case, in either bucket, stay as they are when a blank is written into a field
that the case lacks. -/
theorem read_keeps_of_gainsBlank : record.read.Keeps entries (Node.GainsBlank blanks) := by
  intro v v' c hedit hread
  have hid : idField.Ignores (fun s => s) blanks := RecordField.ignores_of_lookup_eq_none rfl _
  have hstatus : statusField.Ignores (fun s => s) blanks :=
    RecordField.ignores_of_lookup_eq_none rfl _
  have hscheduledFor : scheduledForField.Ignores Reading.ofText blanks :=
    RecordField.optional_ignores_ofText rfl
  have hcreatedAt : createdAtField.Ignores Reading.ofText blanks :=
    RecordField.optional_ignores_ofText rfl
  have hprosecution : prosecutionField.Ignores (fun s => s) blanks :=
    RecordField.lenient_ignores_emptyText rfl _
  have hdefendant : defendantField.Ignores Text.nonBlank blanks :=
    RecordField.optional_ignores_nonBlank rfl
  have hdefence : defenceField.Ignores Text.nonBlank blanks :=
    RecordField.optional_ignores_nonBlank rfl
  have hvotes : votesField.Ignores (fun t => t) blanks := RecordField.lenient_ignores_null rfl ..
  have hsummary : summaryField.Ignores (fun s => s) blanks :=
    RecordField.lenient_ignores_emptyText rfl _
  have htitle : titleField.Ignores Text.nonBlank blanks :=
    RecordField.optional_ignores_nonBlank rfl
  have htags : tagsField.Ignores (fun ts => ts) blanks := RecordField.lenient_ignores_null rfl ..
  have hslots : ∀ slot ∈ record.slots, slot.AcceptsBlank blanks := by
    simp only [record, List.forall_mem_cons]
    exact ⟨hid.acceptsBlank, hstatus.acceptsBlank, hscheduledFor.acceptsBlank,
      hcreatedAt.acceptsBlank, hprosecution.acceptsBlank, hdefendant.acceptsBlank,
      hdefence.acceptsBlank, hvotes.acceptsBlank, hsummary.acceptsBlank, htitle.acceptsBlank,
      htags.acceptsBlank, List.forall_mem_nil _⟩
  obtain ⟨node?, node?', hbuild, hread', hwritten⟩ :=
    Record.read_gainsBlank (by decide) (by decide) hslots hedit hread
  obtain ⟨h₁, h₂, h₃, h₄, h₅, h₆, h₇, h₈, h₉, h₁₀, h₁₁⟩ := build_eq_ok_iff.1 hbuild
  -- five fields are kept up to what the docket makes of them, the others as they are
  obtain ⟨scheduledFor, h₃, hkeep₃⟩ := hscheduledFor.keeps hwritten h₃
  obtain ⟨createdAt, h₄, hkeep₄⟩ := hcreatedAt.keeps hwritten h₄
  obtain ⟨defendant, h₆, hkeep₆⟩ := hdefendant.keeps hwritten h₆
  obtain ⟨defence, h₇, hkeep₇⟩ := hdefence.keeps hwritten h₇
  obtain ⟨title, h₁₀, hkeep₁₀⟩ := htitle.keeps hwritten h₁₀
  refine ⟨{ c with scheduledFor, createdAt, defendant, defence, title },
    hread'.trans (build_eq_ok_iff.2 ⟨?_, ?_, h₃, h₄, ?_, h₆, h₇, ?_, ?_, h₁₀, ?_⟩), ?_⟩
  · exact (hid.keeps hwritten).take h₁
  · exact (hstatus.keeps hwritten).take h₂
  · exact (hprosecution.keeps hwritten).take h₅
  · exact (hvotes.keeps hwritten).take h₈
  · exact (hsummary.keeps hwritten).take h₉
  · exact (htags.keeps hwritten).take h₁₁
  · funext b
    rw [entries, entries, CaseEntry.ofRecord, CaseEntry.ofRecord, hkeep₃, hkeep₄, hkeep₆, hkeep₇,
      hkeep₁₀]

/-- A tally that gains a blank value is read as before, and so is its case. -/
theorem read_keeps_of_tally : record.read.Keeps (fun c => c)
    (record.AtField "voteSummary" (Node.GainsBlank VoteTally.blanks)) := by
  intro v v' c hedit hread
  have hvotes : votesField.read.Keeps (fun t => t) (Node.GainsBlank VoteTally.blanks) :=
    VoteTally.read_keeps.orElse (fun _ _ h => h.ne_null) {}
  have hslot : votesField.slot ∈ record.slots := by simp [record]
  obtain ⟨node?, node?', hbuild, hread', hkeep, htake⟩ :=
    Record.read_atField hslot (by decide) hvotes hedit hread
  obtain ⟨h₁, h₂, h₃, h₄, h₅, h₆, h₇, h₈, h₉, h₁₀, h₁₁⟩ := build_eq_ok_iff.1 hbuild
  refine ⟨c, hread'.trans (build_eq_ok_iff.2 ⟨?_, ?_, ?_, ?_, ?_, ?_, ?_, hkeep.take h₈, ?_, ?_,
    ?_⟩), rfl⟩
  · exact (htake idField (by decide)).trans h₁
  · exact (htake statusField (by decide)).trans h₂
  · exact (htake scheduledForField (by decide)).trans h₃
  · exact (htake createdAtField (by decide)).trans h₄
  · exact (htake prosecutionField (by decide)).trans h₅
  · exact (htake defendantField (by decide)).trans h₆
  · exact (htake defenceField (by decide)).trans h₇
  · exact (htake summaryField (by decide)).trans h₉
  · exact (htake titleField (by decide)).trans h₁₀
  · exact (htake tagsField (by decide)).trans h₁₁

/-- The entries of a case stay as they are when a blank is written into it or into its tally. -/
theorem read_keeps : record.read.Keeps entries WritesBlank := by
  rintro v v' c (hedit | hedit) hread
  · exact read_keeps_of_gainsBlank hedit hread
  · obtain ⟨_, hread', rfl⟩ := read_keeps_of_tally hedit hread
    exact ⟨_, hread', rfl⟩

end CaseRecord

open CaseRecord in
/-- The entry of a call stays as it is when a blank is written into a field that the call lacks. -/
theorem OpenDefenceRecord.read_keeps :
    record.read.Keeps OpenDefenceEntry.ofRecord (Node.GainsBlank blanks) := by
  intro v v' r hedit hread
  have hcaseId : caseIdField.Ignores (fun s => s) blanks :=
    RecordField.ignores_of_lookup_eq_none rfl _
  have hprosecution : prosecutionField.Ignores (fun s => s) blanks :=
    RecordField.lenient_ignores_emptyText rfl _
  have hdefendant : defendantField.Ignores Text.nonBlank blanks :=
    RecordField.optional_ignores_nonBlank rfl
  have hdefence : defenceField.Ignores Text.nonBlank blanks :=
    RecordField.optional_ignores_nonBlank rfl
  have hscheduledFor : scheduledForField.Ignores Reading.ofText blanks :=
    RecordField.optional_ignores_ofText rfl
  have hfiledAt : filedAtField.Ignores Reading.ofText blanks :=
    RecordField.optional_ignores_ofText rfl
  have htags : tagsField.Ignores (fun ts => ts) blanks := RecordField.lenient_ignores_null rfl ..
  have hslots : ∀ slot ∈ record.slots, slot.AcceptsBlank blanks := by
    simp only [record, List.forall_mem_cons]
    exact ⟨hcaseId.acceptsBlank, hprosecution.acceptsBlank, hdefendant.acceptsBlank,
      hdefence.acceptsBlank, hscheduledFor.acceptsBlank, hfiledAt.acceptsBlank,
      htags.acceptsBlank, List.forall_mem_nil _⟩
  obtain ⟨node?, node?', hbuild, hread', hwritten⟩ :=
    Record.read_gainsBlank (by decide) (by decide) hslots hedit hread
  obtain ⟨h₁, h₂, h₃, h₄, h₅, h₆, h₇⟩ := build_eq_ok_iff.1 hbuild
  obtain ⟨defendant, h₃, hkeep₃⟩ := hdefendant.keeps hwritten h₃
  obtain ⟨defence, h₄, hkeep₄⟩ := hdefence.keeps hwritten h₄
  obtain ⟨scheduledFor, h₅, hkeep₅⟩ := hscheduledFor.keeps hwritten h₅
  obtain ⟨filedAt, h₆, hkeep₆⟩ := hfiledAt.keeps hwritten h₆
  refine ⟨{ r with defendant, defence, scheduledFor, filedAt },
    hread'.trans (build_eq_ok_iff.2 ⟨?_, ?_, h₃, h₄, h₅, h₆, ?_⟩), ?_⟩
  · exact (hcaseId.keeps hwritten).take h₁
  · exact (hprosecution.keeps hwritten).take h₂
  · exact (htags.keeps hwritten).take h₇
  · rw [OpenDefenceEntry.ofRecord, OpenDefenceEntry.ofRecord, hkeep₃, hkeep₄, hkeep₅, hkeep₆]

/-! ### Snapshots -/

namespace Schedule

/-- What the docket makes of the cases. -/
def entries (s : Schedule) : List (Bucket → CaseEntry) × List (Bucket → CaseEntry) :=
  (s.active.map CaseRecord.entries, s.scheduled.map CaseRecord.entries)

/-- The entries of a schedule stay as they are when a blank is written into one of its cases. -/
theorem read_keeps : record.read.Keeps entries WritesBlank := by
  have hlist := CaseRecord.read_keeps.list
  rintro v v' s (hedit | hedit) hread
  · have hslot : activeField.slot ∈ record.slots := by simp [record]
    obtain ⟨node?, node?', hbuild, hread', hkeep, htake⟩ :=
      Record.read_atField hslot (by decide) hlist hedit hread
    obtain ⟨h₁, h₂⟩ := build_eq_ok_iff.1 hbuild
    obtain ⟨active, h₁, hactive⟩ := hkeep h₁
    refine ⟨{ s with active }, hread'.trans (build_eq_ok_iff.2 ⟨h₁, ?_⟩), ?_⟩
    · exact (htake scheduledField (by decide)).trans h₂
    · rw [entries, entries, hactive]
  · have hslot : scheduledField.slot ∈ record.slots := by simp [record]
    obtain ⟨node?, node?', hbuild, hread', hkeep, htake⟩ :=
      Record.read_atField hslot (by decide) hlist hedit hread
    obtain ⟨h₁, h₂⟩ := build_eq_ok_iff.1 hbuild
    obtain ⟨scheduled, h₂, hscheduled⟩ := hkeep h₂
    refine ⟨{ s with scheduled }, hread'.trans (build_eq_ok_iff.2 ⟨?_, h₂⟩), ?_⟩
    · exact (htake activeField (by decide)).trans h₁
    · rw [entries, entries, hscheduled]

end Schedule

namespace Snapshot

/-- What is told of a snapshot: the docket and the events of making it. -/
def told (s : Snapshot) (settings : Settings) : DocketView × List LogEvent :=
  (s.view settings, s.viewEvents settings)

/-- The docket sees no more of the records than what it makes of them. -/
theorem told_congr (s : Snapshot) {schedule : Schedule} {openDefences : List OpenDefenceRecord}
    (hschedule : schedule.entries = s.schedule.entries)
    (hopenDefences : openDefences.map .ofRecord = s.openDefenceEntries) :
    told { s with schedule, openDefences } = s.told := by
  obtain ⟨hactive, hscheduled⟩ := Prod.mk.inj hschedule
  have hcases : ∀ b, bucketEntries { s with schedule, openDefences } b = s.bucketEntries b := by
    intro b
    cases b with
    | active =>
      have hentries := congrArg (List.map fun e => e Bucket.active) hactive
      simp only [List.map_map, Function.comp_def] at hentries
      rw [bucketEntries, bucketEntries, ← hentries]
    | scheduled =>
      have hentries := congrArg (List.map fun e => e Bucket.scheduled) hscheduled
      simp only [List.map_map, Function.comp_def] at hentries
      rw [bucketEntries, bucketEntries, ← hentries]
  have hcalls : openDefenceEntries { s with schedule, openDefences } = s.openDefenceEntries :=
    hopenDefences
  funext settings
  simp only [told, view, viewEvents, bucketRows, openDefenceRows, bucketEvents,
    openDefenceEvents, selectedCases, selectedCalls, viewpoint, hcases, hcalls]

/-- **A blank value is as good as none.**  When it is written into a snapshot, the snapshot is
still read, and the docket and its events are the same. -/
theorem read_keeps : record.read.Keeps told WritesBlank := by
  rintro v v' s (hedit | hedit) hread
  · have hslot : scheduleField.slot ∈ record.slots := by simp [record]
    obtain ⟨node?, node?', hbuild, hread', hkeep, htake⟩ :=
      Record.read_atField hslot (by decide) Schedule.read_keeps hedit hread
    obtain ⟨h₁, h₂, h₃, h₄, h₅, h₆⟩ := build_eq_ok_iff.1 hbuild
    obtain ⟨schedule, h₂, hschedule⟩ := hkeep h₂
    refine ⟨{ s with schedule }, hread'.trans (build_eq_ok_iff.2 ⟨?_, h₂, ?_, ?_, ?_, ?_⟩), ?_⟩
    · exact (htake nowField (by decide)).trans h₁
    · exact (htake openDefencesField (by decide)).trans h₃
    · exact (htake scheduleControlsField (by decide)).trans h₄
    · exact (htake openDefenceControlsField (by decide)).trans h₅
    · exact (htake liveField (by decide)).trans h₆
    · exact told_congr s hschedule rfl
  · have hslot : openDefencesField.slot ∈ record.slots := by simp [record]
    obtain ⟨node?, node?', hbuild, hread', hkeep, htake⟩ :=
      Record.read_atField hslot (by decide) OpenDefenceRecord.read_keeps.list hedit hread
    obtain ⟨h₁, h₂, h₃, h₄, h₅, h₆⟩ := build_eq_ok_iff.1 hbuild
    obtain ⟨openDefences, h₃, hopenDefences⟩ := hkeep h₃
    refine ⟨{ s with openDefences }, hread'.trans (build_eq_ok_iff.2 ⟨?_, ?_, h₃, ?_, ?_, ?_⟩), ?_⟩
    · exact (htake nowField (by decide)).trans h₁
    · exact (htake scheduleField (by decide)).trans h₂
    · exact (htake scheduleControlsField (by decide)).trans h₄
    · exact (htake openDefenceControlsField (by decide)).trans h₅
    · exact (htake liveField (by decide)).trans h₆
    · exact told_congr s rfl hopenDefences

variable {text text' : List Symbol} {s : Snapshot}

/-- **Blank values are as good as none.**  When any number of blank values are written into the
document of a snapshot, each where a record lacks it, the document is still read, and the docket
and its events, the warnings about times that cannot be read among them, are the same for all
settings. -/
theorem parse_writesBlank (hparse : parse text = .ok s) {v : Node}
    (hedits : Relation.ReflTransGen WritesBlank (Node.ofSymbols text).1 v)
    (htext : Node.ofSymbols text' = (v, false)) :
    ∃ s', parse text' = .ok s' ∧ ∀ settings,
      s'.view settings = s.view settings ∧ s'.viewEvents settings = s.viewEvents settings := by
  rw [parse, Reader.document_eq_ok_iff] at hparse
  obtain ⟨s', hread, htold⟩ := read_keeps.reflTransGen hedits hparse.1
  refine ⟨s', ?_, fun settings => Prod.mk.inj (congrFun htold settings)⟩
  rw [parse, Reader.document_eq_ok_iff, htext]
  exact ⟨hread, rfl⟩

/-- A document with a case and a call for a defence, and with further members of the case, of its
tally and of the call. -/
def sparseJson (inCase inTally inCall : List (String × Json)) : Json :=
  .object [("nowMs", .count 0),
    ("schedule", .object [("active", .array [.object (inCase ++ [("id", .string "case-1"),
      ("status", .string "active"), ("createdAtIso", .string "soon"),
      ("voteSummary", .object inTally)])])]),
    ("openDefenceCases", .array [.object (inCall ++ [("caseId", .string "case-2")])])]

/-- The text of such a document. -/
def sparseText (inCase inTally inCall : List (String × Json)) : List Symbol :=
  Symbol.ofString (String.ofList (sparseJson inCase inTally inCall).compact)

/-- The snapshot without further members. -/
def sparseDocket : Snapshot :=
  { now := 0
    schedule := { active := [{ id := "case-1", status := .active, createdAt := some "soon" }] }
    openDefences := [{ caseId := "case-2" }] }

/-- Three blanks are written one after the other: a title, a count and the id of a prosecution. -/
theorem sparse_writesBlank : Relation.ReflTransGen WritesBlank (sparseJson [] [] []).node
    (sparseJson [("caseTitle", .string " ")] [("jurySize", .null)]
      [("prosecutionAgentId", .string "")]).node := by
  have hkey := RawString.text_ofString
  have hother := @RawString.text_ofString_ne
  have htitle : WritesBlank (sparseJson [] [] []).node
      (sparseJson [("caseTitle", .string " ")] [] []).node := by
    have hblank : Node.IsBlankText (node (.string " ")) := .string (hkey " ") (by decide)
    refine .schedule (.object ?_ (.there (hother (by decide)) (.here (hkey _))))
    exact .active (.object (.array (.field (.cons rfl hblank rfl)) .here) (.here (hkey _)))
  have htally : WritesBlank (sparseJson [("caseTitle", .string " ")] [] []).node
      (sparseJson [("caseTitle", .string " ")] [("jurySize", .null)] []).node := by
    refine .schedule (.object ?_ (.there (hother (by decide)) (.here (hkey _))))
    refine .active (.object (.array (.tally (.object ?_ (.there (hother (by decide)) <|
      .there (hother (by decide)) <| .there (hother (by decide)) <|
        .there (hother (by decide)) (.here (hkey _))))) .here) (.here (hkey _)))
    exact .cons rfl Node.IsNull.null rfl
  have hcall : WritesBlank (sparseJson [("caseTitle", .string " ")] [("jurySize", .null)] []).node
      (sparseJson [("caseTitle", .string " ")] [("jurySize", .null)]
        [("prosecutionAgentId", .string "")]).node := by
    have hempty : Node.IsEmptyText (node (.string "")) := .string (hkey "")
    refine .openDefences (.object ?_ (.there (hother (by decide)) <|
      .there (hother (by decide)) (.here (hkey _))))
    exact .array (.cons rfl hempty rfl) .here
  exact ((Relation.ReflTransGen.single htitle).tail htally).tail hcall

/-- A document into which three blanks are written is read with the same view and the same
events. -/
theorem parse_writesBlank_sparseDocket :
    parse (sparseText [] [] []) = .ok sparseDocket ∧
      Relation.ReflTransGen WritesBlank (Node.ofSymbols (sparseText [] [] [])).1
        (sparseJson [("caseTitle", .string " ")] [("jurySize", .null)]
          [("prosecutionAgentId", .string "")]).node ∧
      Node.ofSymbols (sparseText [("caseTitle", .string " ")] [("jurySize", .null)]
        [("prosecutionAgentId", .string "")]) =
          ((sparseJson [("caseTitle", .string " ")] [("jurySize", .null)]
            [("prosecutionAgentId", .string "")]).node, false) ∧
      ∃ s', parse (sparseText [("caseTitle", .string " ")] [("jurySize", .null)]
        [("prosecutionAgentId", .string "")]) = .ok s' ∧
          ∀ settings, s'.view settings = sparseDocket.view settings ∧
            s'.viewEvents settings = sparseDocket.viewEvents settings := by
  have htree : ∀ inCase inTally inCall, Node.ofSymbols (sparseText inCase inTally inCall) =
      ((sparseJson inCase inTally inCall).node, false) :=
    fun _ _ _ => (writtenAs_compact _).ofSymbols_ofString
  have hparse : parse (sparseText [] [] []) = .ok sparseDocket := by
    rw [parse, Reader.document_eq_ok_iff, htree]
    exact ⟨rfl, rfl⟩
  have hedits : Relation.ReflTransGen WritesBlank (Node.ofSymbols (sparseText [] [] [])).1
      (sparseJson [("caseTitle", .string " ")] [("jurySize", .null)]
        [("prosecutionAgentId", .string "")]).node := by
    rw [htree]
    exact sparse_writesBlank
  exact ⟨hparse, hedits, htree _ _ _, parse_writesBlank hparse hedits (htree _ _ _)⟩

end Snapshot

end CourtDocket
