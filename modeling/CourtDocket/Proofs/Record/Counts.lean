/-
# Vote counts that are written into a record

Two integers are written as `votesCast` and `jurySize` of a case, in place of the old ones or where
the case had none, also when it had no tally at all.  What is read of them is told by the integers
alone (`VoteTally.written?`):

| integer | read as |
| --- | --- |
| from `-9223372036854775808` to `9223372036854775807` | a count |
| beyond these ends | nothing, and the document is refused |
| zero with a minus | nothing likewise, since it is taken as a binary64 number |

All else of the snapshot is read as before (`Snapshot.read_takes`).
-/

import CourtDocket.Proofs.Docket.Panel
import CourtDocket.Proofs.Json.Writing
import CourtDocket.Proofs.Record.Fields

namespace CourtDocket

open Json

/-! ### Integers -/

namespace Json.Numeral

/-- Whether a numeral is one of an integer: it has neither a point nor an exponent. -/
structure IsInteger (n : Numeral) : Prop where
  /-- Nothing follows a point. -/
  fraction : n.fraction = []
  /-- There is no exponent. -/
  exponent : n.exponent = none

/-- The integer of the digits before the point. -/
def integer (n : Numeral) : ℤ :=
  if n.negative then -(Number.ofDigits n.whole : ℤ) else Number.ofDigits n.whole

/-- The count that a numeral of an integer is read as. -/
def count? (n : Numeral) : Option Int64 :=
  if n.negative = true ∧ n.integer = 0 then none else int64? n.integer

/-- Whether the integer of a numeral is a count: it fits 64 bits, and it is no zero with a minus. -/
structure FitsCount (n : Numeral) : Prop where
  /-- It is not below the range. -/
  low : -9223372036854775808 ≤ n.integer
  /-- It is not above the range. -/
  high : n.integer ≤ 9223372036854775807
  /-- There is no minus before zero. -/
  zero : ¬(n.negative = true ∧ n.integer = 0)

/-- A numeral gives a count just when it fits one, and then its value. -/
theorem count?_eq_some_iff {n : Numeral} {c : Int64} :
    n.count? = some c ↔ n.FitsCount ∧ c.toInt = n.integer := by
  rw [count?]
  constructor
  · intro h
    split_ifs at h with hzero
    have hinteger := toInt_of_int64? h
    have hlow := Int64.le_toInt c
    have hhigh := Int64.toInt_lt c
    exact ⟨⟨by omega, by omega, hzero⟩, hinteger⟩
  · rintro ⟨hfits, hinteger⟩
    rw [if_neg hfits.zero, ← hinteger, int64?_toInt]

/-- A numeral that fits a count gives one. -/
theorem FitsCount.exists_count? {n : Numeral} (h : n.FitsCount) : ∃ c, n.count? = some c := by
  have hlow := h.low
  have hhigh := h.high
  refine ⟨Int64.ofInt n.integer, count?_eq_some_iff.2 ⟨h, ?_⟩⟩
  exact Int64.toInt_ofInt_of_le (by omega) (by omega)

/-- The numeral of an integer is an integer. -/
theorem isInteger_ofInt (i : ℤ) : (ofInt i).IsInteger :=
  ⟨rfl, rfl⟩

/-- Whether a numeral of an integer has the integer as its value. -/
def FitsValue (n : Numeral) : Prop :=
  if n.negative then 1 ≤ Number.ofDigits n.whole ∧ Number.ofDigits n.whole ≤ 9223372036854775808
  else Number.ofDigits n.whole ≤ 18446744073709551615

/-- What does not fit a value is no count. -/
theorem count?_eq_none {n : Numeral} (h : ¬n.FitsValue) : n.count? = none := by
  rw [FitsValue] at h
  rw [count?, int64?, integer]
  cases hsign : n.negative with
  | false =>
    simp only [hsign, Bool.false_eq_true, if_false, false_and] at h ⊢
    rw [if_neg (by omega)]
  | true =>
    simp only [hsign, if_true, true_and] at h ⊢
    split_ifs <;> first | rfl | omega

/-- **A numeral of an integer is read as its count.** -/
theorem int64_number_eq_ok_iff {n : Numeral} (h : n.IsInteger) (c : Int64) :
    Reader.int64 (.number n) = .ok c ↔ n.count? = some c := by
  by_cases hfits : n.FitsValue
  · have hvalue : n.value = .ok (.int n.integer) := if_pos ⟨h.fraction, h.exponent, hfits⟩
    have hsigned : ¬(n.negative = true ∧ n.integer = 0) := by
      rintro ⟨hsign, hzero⟩
      rw [FitsValue, if_pos hsign] at hfits
      rw [integer, if_pos hsign] at hzero
      omega
    rw [Reader.int64, hvalue, count?, if_neg hsigned]
    simp only [orMalformed, Except.mapError, bind, Except.bind]
    cases int64? n.integer <;> simp [pure, Except.pure, throw, throwThe, MonadExceptOf.throw]
  · have hvalue : n.value = n.toFloat.map .float := if_neg fun hall => hfits hall.2.2
    rw [Reader.int64, hvalue, count?_eq_none hfits]
    cases n.toFloat <;>
      simp [orMalformed, Except.map, Except.mapError, bind, Except.bind, throw, throwThe,
        MonadExceptOf.throw]

end Json.Numeral

/-! ### Tallies -/

namespace VoteTally

/-- The tally that two numerals of integers are read as. -/
def written? (cast jury : Numeral) : Option VoteTally := do
  pure { cast := ← cast.count?, jury := ← jury.count? }

/-- Two numerals are written as the counts of a tally. -/
def WritesCounts (cast jury : Numeral) (v v' : Node) : Prop :=
  ∃ mid, record.Writes "votesCast" (fun _ w => w = .number cast) v mid ∧
    record.Writes "jurySize" (fun _ w => w = .number jury) mid v'

variable {cast jury : Numeral}

/-- Two numerals give a tally just when both give a count, and then the tally of these. -/
theorem written?_eq_some_iff {t : VoteTally} :
    written? cast jury = some t ↔ cast.count? = some t.cast ∧ jury.count? = some t.jury := by
  obtain ⟨c, j⟩ := t
  rw [written?]
  cases cast.count? <;> cases jury.count? <;> simp [mk.injEq]

/-- Where counts are written there is a tally and not `null`. -/
theorem WritesCounts.ne_null {v v' : Node} (h : WritesCounts cast jury v v') : v' ≠ .null := by
  obtain ⟨_, -, h⟩ := h
  exact h.ne_null

/-- A count is read off a numeral. -/
theorem read_number {name : String} {n : Numeral} (h : n.IsInteger) (c : Int64) :
    (RecordField.lenient name 0 Reader.int64).read (.number n) = .ok c ↔ n.count? = some c := by
  rw [← Numeral.int64_number_eq_ok_iff h]
  show Reader.orElse 0 Reader.int64 (.number n) = .ok c ↔ _
  rw [Reader.orElse_of_ne_null (by simp)]

/-- **A tally takes the counts that are written into it**, whatever it had. -/
theorem read_takes (hcast : cast.IsInteger) (hjury : jury.IsInteger) :
    record.read.Takes (written? cast jury) (fun t _ => t) (WritesCounts cast jury) := by
  rintro v v' a ⟨mid, hfirst, hsecond⟩ hread t'
  have hslots : castField.slot ∈ record.slots ∧ juryField.slot ∈ record.slots := by simp [record]
  obtain ⟨_, rfl, hmid, hreadMid⟩ :=
    Record.Writes.exists_node (f := castField) hslots.1 (by decide) hfirst
  obtain ⟨_, rfl, hnew, hreadNew⟩ :=
    Record.Writes.exists_node (f := juryField) hslots.2 (by decide) hsecond
  have hcastMid : castField.take (record.nodes mid) = castField.read (.number cast) := by
    rw [hmid, RecordField.take_update]
  have hcastNew : castField.take (record.nodes v') = castField.read (.number cast) := by
    rw [hnew, RecordField.take_update_of_ne (by decide), hcastMid]
  have hjuryNew : juryField.take (record.nodes v') = juryField.read (.number jury) := by
    rw [hnew, RecordField.take_update]
  have hbuild : record.build (record.nodes v') = .ok t' ↔ written? cast jury = some t' := by
    rw [build_eq_ok_iff, hcastNew, hjuryNew, written?_eq_some_iff]
    exact and_congr (read_number hcast _) (read_number hjury _)
  constructor
  · intro h
    exact ⟨t', hbuild.1 (Record.build_nodes h), rfl⟩
  · rintro ⟨t, ht, rfl⟩
    have hnumbers := written?_eq_some_iff.1 ht
    -- with the first count alone, the tally has the old size of the jury
    have hjuryMid : juryField.take (record.nodes mid) = .ok a.jury := by
      rw [← (build_eq_ok_iff.1 (Record.build_nodes hread)).2]
      rw [hmid, RecordField.take_update_of_ne (by decide)]
    have hcastRead : castField.read (.number cast) = .ok t'.cast :=
      (read_number hcast t'.cast).2 hnumbers.1
    have hmidRead : record.read mid = .ok { cast := t'.cast, jury := a.jury } := by
      rw [hreadMid a _ hread hcastRead]
      exact build_eq_ok_iff.2 ⟨hcastMid.trans hcastRead, hjuryMid⟩
    rw [hreadNew _ _ hmidRead ((read_number hjury t'.jury).2 hnumbers.2)]
    exact hbuild.2 ht

end VoteTally

/-! ### Cases -/

namespace CaseRecord

/-- The tally of a case, an empty one if there is none or it is `null`. -/
def tallyNode : Option Node → Node
  | none => .object .close
  | some .null => .object .close
  | some w => w

/-- Two numerals are written as the counts of a case. -/
def WritesCounts (cast jury : Numeral) : Node → Node → Prop :=
  record.Writes "voteSummary" fun w? w => VoteTally.WritesCounts cast jury (tallyNode w?) w

variable {cast jury : Numeral}

/-- The case with another tally. -/
def withVotes (t : VoteTally) (c : CaseRecord) : CaseRecord :=
  { c with votes := t }

/-- The tally is a part of a case that only the field of the votes reads. -/
theorem part_votes : record.Part votesField (·.votes) withVotes where
  slot := by simp [record]
  nodup := by decide
  take _ _ h := (build_eq_ok_iff.1 h).2.2.2.2.2.2.2.1
  build := by
    intro node? c hbuild w c'
    obtain ⟨h₁, h₂, h₃, h₄, h₅, h₆, h₇, -, h₉, h₁₀, h₁₁⟩ := build_eq_ok_iff.1 hbuild
    simp (disch := decide) only [build_eq_ok_iff, RecordField.take_update,
      RecordField.take_update_of_ne, h₁, h₂, h₃, h₄, h₅, h₆, h₇, h₉, h₁₀, h₁₁]
    obtain ⟨id, status, scheduledFor, createdAt, prosecution, defendant, defence, votes, summary,
      title, tags⟩ := c'
    simp only [Except.ok.injEq, withVotes, mk.injEq]
    constructor
    · rintro ⟨rfl, rfl, rfl, rfl, rfl, rfl, rfl, hread, rfl, rfl, rfl⟩
      exact ⟨votes, hread, rfl, rfl, rfl, rfl, rfl, rfl, rfl, rfl, rfl, rfl, rfl⟩
    · rintro ⟨_, hread, rfl, rfl, rfl, rfl, rfl, rfl, rfl, rfl, rfl, rfl, rfl⟩
      exact ⟨rfl, rfl, rfl, rfl, rfl, rfl, rfl, hread, rfl, rfl, rfl⟩

/-- A value of the votes that is not `null` is read as a tally. -/
theorem read_votesField {w : Node} (h : w ≠ .null) :
    votesField.read w = VoteTally.record.read w :=
  Reader.orElse_of_ne_null h ({} : VoteTally)

/-- A tally that is missing or `null` is read as an empty one is. -/
theorem read_tallyNode {node? : String → Option Node} {t : VoteTally}
    (h : votesField.take node? = .ok t) :
    VoteTally.record.read (tallyNode (node? votesField.name)) = .ok t := by
  have hempty : VoteTally.record.read (.object .close) = .ok {} := rfl
  cases hnode : node? votesField.name with
  | none =>
    rw [RecordField.take_of_eq_none hnode] at h
    cases h
    exact hempty
  | some w =>
    rw [RecordField.take_of_eq_some hnode] at h
    by_cases hw : w = .null
    · subst hw
      cases h
      exact hempty
    · have hsome : tallyNode (some w) = w := by
        cases w <;> first | rfl | exact absurd rfl hw
      rwa [hsome, ← read_votesField hw]

/-- The field of the votes takes the two counts that are written, or refuses both. -/
theorem votesField_takes (hcast : cast.IsInteger) (hjury : jury.IsInteger) :
    votesField.Takes (VoteTally.written? cast jury) (fun t _ => t)
      fun w? w => VoteTally.WritesCounts cast jury (tallyNode w?) w := by
  intro node? w t hwrites htake t'
  rw [read_votesField hwrites.ne_null]
  exact VoteTally.read_takes hcast hjury hwrites (read_tallyNode htake) t'

/-- A case takes the two counts that are written to its tally, or is refused. -/
theorem read_takes (hcast : cast.IsInteger) (hjury : jury.IsInteger) :
    record.read.Takes (VoteTally.written? cast jury) withVotes (WritesCounts cast jury) :=
  part_votes.takes (votesField_takes hcast hjury)

end CaseRecord

/-! ### Snapshots -/

namespace Schedule

variable {cast jury : Numeral}

/-- The field of a bucket. -/
def bucketField : Bucket → RecordField (List CaseRecord)
  | .active => activeField
  | .scheduled => scheduledField

/-- The schedule with other cases in a bucket. -/
def setBucket : Bucket → List CaseRecord → Schedule → Schedule
  | .active, cs, s => { s with active := cs }
  | .scheduled, cs, s => { s with scheduled := cs }

/-- Two numerals are written as the counts of the case at a place of a bucket. -/
def WritesCounts (cast jury : Numeral) (b : Bucket) (i : ℕ) : Node → Node → Prop :=
  record.Writes (bucketField b).name (Replaces (Node.AtNth i (CaseRecord.WritesCounts cast jury)))

/-- A bucket is a part of a schedule that only the field of its name reads. -/
theorem part_bucket (b : Bucket) : record.Part (bucketField b) (·.bucket b) (setBucket b) where
  slot := by cases b <;> simp [record, bucketField]
  nodup := by decide
  take := by
    intro _ _ h
    cases b
    · exact (build_eq_ok_iff.1 h).1
    · exact (build_eq_ok_iff.1 h).2
  build := by
    rintro node? s hbuild w ⟨active, scheduled⟩
    obtain ⟨hactive, hscheduled⟩ := build_eq_ok_iff.1 hbuild
    cases b with
    | active =>
      simp (disch := decide) only [bucketField, setBucket, build_eq_ok_iff,
        RecordField.take_update, RecordField.take_update_of_ne, hscheduled, Except.ok.injEq,
        mk.injEq]
      constructor
      · rintro ⟨hread, rfl⟩
        exact ⟨active, hread, rfl, rfl⟩
      · rintro ⟨_, hread, rfl, rfl⟩
        exact ⟨hread, rfl⟩
    | scheduled =>
      simp (disch := decide) only [bucketField, setBucket, build_eq_ok_iff,
        RecordField.take_update, RecordField.take_update_of_ne, hactive, Except.ok.injEq, mk.injEq]
      constructor
      · rintro ⟨rfl, hread⟩
        exact ⟨scheduled, hread, rfl, rfl⟩
      · rintro ⟨_, hread, rfl, rfl⟩
        exact ⟨rfl, hread⟩

/-- The schedule with another tally of the case at a place of a bucket. -/
def withVotes (b : Bucket) (i : ℕ) (t : VoteTally) (s : Schedule) : Schedule :=
  s.setBucket b ((s.bucket b).modify i (CaseRecord.withVotes t))

/-- The field of a bucket takes the two counts that are written to one of its cases, or refuses the
bucket. -/
theorem bucketField_takes (hcast : cast.IsInteger) (hjury : jury.IsInteger) (b : Bucket) (i : ℕ) :
    (bucketField b).Takes (VoteTally.written? cast jury)
      (fun t cs => cs.modify i (CaseRecord.withVotes t))
      (Replaces (Node.AtNth i (CaseRecord.WritesCounts cast jury))) := by
  have hlist := (CaseRecord.read_takes hcast hjury).list i
  cases b with
  | active => exact Reader.Takes.field (f := activeField) hlist
  | scheduled => exact Reader.Takes.field (f := scheduledField) hlist

/-- A schedule takes the two counts that are written to one of its cases, or is refused. -/
theorem read_takes (hcast : cast.IsInteger) (hjury : jury.IsInteger) (b : Bucket) (i : ℕ) :
    record.read.Takes (VoteTally.written? cast jury) (withVotes b i)
      (WritesCounts cast jury b i) :=
  (part_bucket b).takes (bucketField_takes hcast hjury b i)

end Schedule

namespace Snapshot

variable {cast jury : Numeral}

/-- Two numerals are written as the counts of the case at a place of a bucket. -/
def WritesCounts (cast jury : Numeral) (b : Bucket) (i : ℕ) : Node → Node → Prop :=
  record.Writes "schedule" (Replaces (Schedule.WritesCounts cast jury b i))

/-- The snapshot with another tally of the case at a place of a bucket. -/
def withVotes (b : Bucket) (i : ℕ) (t : VoteTally) (s : Snapshot) : Snapshot :=
  { s with schedule := s.schedule.withVotes b i t }

/-- The schedule is a part of a snapshot that only the field of its name reads. -/
theorem part_schedule :
    record.Part scheduleField (·.schedule) fun schedule s => { s with schedule } where
  slot := by simp [record]
  nodup := by decide
  take _ _ h := (build_eq_ok_iff.1 h).2.1
  build := by
    intro node? s hbuild w s'
    obtain ⟨h₁, -, h₃, h₄, h₅, h₆⟩ := build_eq_ok_iff.1 hbuild
    simp (disch := decide) only [build_eq_ok_iff, RecordField.take_update,
      RecordField.take_update_of_ne, h₁, h₃, h₄, h₅, h₆]
    obtain ⟨now, schedule, openDefences, scheduleControls, openDefenceControls, live⟩ := s'
    simp only [Except.ok.injEq, mk.injEq]
    constructor
    · rintro ⟨rfl, hread, rfl, rfl, rfl, rfl⟩
      exact ⟨schedule, hread, rfl, rfl, rfl, rfl, rfl, rfl⟩
    · rintro ⟨_, hread, rfl, rfl, rfl, rfl, rfl, rfl⟩
      exact ⟨rfl, hread, rfl, rfl, rfl, rfl⟩

/-- **A snapshot takes the counts that are written into one of its cases.** -/
theorem read_takes (hcast : cast.IsInteger) (hjury : jury.IsInteger) (b : Bucket) (i : ℕ) :
    record.read.Takes (VoteTally.written? cast jury) (withVotes b i)
      (WritesCounts cast jury b i) :=
  part_schedule.takes (Schedule.read_takes hcast hjury b i).field

end Snapshot
end CourtDocket
