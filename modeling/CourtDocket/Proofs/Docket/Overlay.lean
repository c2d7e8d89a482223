/-
# What a live count can change

A live count is laid over the published one of the case with its id (`LiveVotes.override`).  No
part of a docket but the votes of a row reads the counts, so the docket with the new count has the
rows of the docket without it, those of the case with other votes (`view_override`):

| of the docket | with a live count | with the live count removed |
| --- | --- | --- |
| votes of a row with the id | the count, live | the published count, not live |
| all other votes | unchanged | unchanged |
| all else | unchanged | unchanged |

The votes that are shown are said by the tally of the record and the count alone
(`VoteView.ofCount`), so neither the other counts nor the earlier one of the case shows through.
-/

import CourtDocket.Proofs.Docket.Panel

namespace CourtDocket

namespace LiveVotes

variable (live : LiveVotes) (id x : String)

/-- The counts after a new one of a case has been given, or the one that it had removed. -/
def override (live : LiveVotes) (id : String) : Option Int64 → LiveVotes
  | some count => live.put id count
  | none => live.erase id

/-- A count that is removed is gone, and the others stay. -/
theorem get?_erase : (live.erase x).get? id = if id = x then none else live.get? id := by
  have hlookup : ∀ entries : List (String × Int64),
      (entries.filter (·.1 ≠ x)).lookup id = if id = x then none else entries.lookup id := by
    intro entries
    induction entries with
    | nil => simp
    | cons e entries ih =>
      obtain ⟨k, count⟩ := e
      by_cases hk : k = x
      · subst hk
        rw [List.filter_cons_of_neg (by simp), ih]
        split_ifs with hid
        · rfl
        · rw [List.lookup_cons, beq_false_of_ne hid]
      · rw [List.filter_cons_of_pos (by simpa using hk), List.lookup_cons, List.lookup_cons, ih]
        by_cases hid : id = k
        · subst hid
          simp [hk]
        · rw [beq_false_of_ne hid]
  exact hlookup live.entries

/-- A count that is put is there, and the others stay. -/
theorem get?_put (count : Int64) :
    (live.put x count).get? id = if id = x then some count else live.get? id := by
  have happend : (live.put x count).get? id =
      ((live.erase x).get? id).or ([(x, count)].lookup id) := List.lookup_append
  rw [happend, get?_erase]
  split_ifs with hid
  · subst hid
    simp
  · have hnone : [(x, count)].lookup id = none := by
      rw [List.lookup_cons, beq_false_of_ne hid]
      rfl
    rw [hnone, Option.or_none]

/-- **A case has the count that it was given last**, and the other cases have theirs. -/
theorem get?_override (count? : Option Int64) :
    (live.override x count?).get? id = if id = x then count? else live.get? id := by
  cases count? with
  | none => exact live.get?_erase id x
  | some count => exact live.get?_put id x count

end LiveVotes

namespace VoteView

/-- The votes of a tally with a live count laid over it, or without one. -/
def ofCount (tally : VoteTally) (count? : Option Int64) : VoteView :=
  let cast := count?.getD tally.cast
  { cast
    jury := tally.jury
    ratio := voteRatio cast tally.jury
    label := voteLabel cast tally.jury
    live := count?.isSome }

/-- Of all live counts the votes of a case depend on its own only. -/
theorem build_eq_ofCount (id : String) (tally : VoteTally) (live : LiveVotes) :
    build id tally live = ofCount tally (live.get? id) :=
  rfl

end VoteView

namespace Snapshot

variable (settings : Settings) (s : Snapshot)

/-- The snapshot with a new live count of a case, or with the one that it had removed. -/
def override (s : Snapshot) (x : String) (count? : Option Int64) : Snapshot :=
  { s with live := s.live.override x count? }

/-- The row of a case is the same under other live counts, its votes apart. -/
theorem caseRow_override (x : String) (count? : Option Int64) (b : Bucket) (r : CaseRecord) :
    (s.override x count?).caseRow settings b r =
      if r.id = x then
        { s.caseRow settings b r with votes := .ofCount r.votes count? }
      else s.caseRow settings b r := by
  have hvotes : ((s.override x count?).caseRow settings b r).votes =
      if r.id = x then .ofCount r.votes count? else (s.caseRow settings b r).votes := by
    have hbuild : ((s.override x count?).caseRow settings b r).votes =
        .ofCount r.votes ((s.live.override x count?).get? r.id) :=
      VoteView.build_eq_ofCount ..
    rw [hbuild, LiveVotes.get?_override]
    split_ifs
    · rfl
    · exact (VoteView.build_eq_ofCount ..).symm
  have hframe : (s.override x count?).caseRow settings b r =
      { s.caseRow settings b r with
        votes := ((s.override x count?).caseRow settings b r).votes } := rfl
  rw [hframe, hvotes]
  split_ifs <;> rfl

/-- A row is counted by its policy alone, so the votes of a case do not count. -/
theorem summary_override (x : String) (count? : Option Int64) :
    ((s.override x count?).view settings).summary = (s.view settings).summary := by
  have hpolicies : ∀ b, (((s.override x count?).view settings).bucket b).map (·.policy) =
      ((s.view settings).bucket b).map (·.policy) := by
    intro b
    rw [bucket_view, bucket_view, List.map_map, List.map_map]
    rfl
  have hlength : ∀ b, (((s.override x count?).view settings).bucket b).length =
      ((s.view settings).bucket b).length := by
    intro b
    simpa using congrArg List.length (hpolicies b)
  have hbeyond : ∀ b,
      (((s.override x count?).view settings).bucket b).countP (·.policy.outOfWindow) =
        ((s.view settings).bucket b).countP (·.policy.outOfWindow) := by
    intro b
    have hcount := congrArg (List.countP PolicyFlags.outOfWindow) (hpolicies b)
    rwa [List.countP_map, List.countP_map] at hcount
  have hactive := hlength .active
  have hscheduled := hlength .scheduled
  have hactiveBeyond := hbeyond .active
  have hscheduledBeyond := hbeyond .scheduled
  simp only [DocketView.bucket] at hactive hscheduled hactiveBeyond hscheduledBeyond
  simp only [DocketView.summary, List.countP_append, hactive, hscheduled, hactiveBeyond,
    hscheduledBeyond]
  rfl

/-- **A live count changes the votes of its case and nothing else.**  The rows of the case show the
new count as a live one, or the published count when the live one is removed; the other rows, the
order of every panel, the open defences and the summary stay as they are. -/
theorem view_override (x : String) (count? : Option Int64) :
    (∀ b,
      (s.view settings).bucket b = (s.shownCases b).map (s.caseRow settings b) ∧
      ((s.override x count?).view settings).bucket b = (s.shownCases b).map fun r =>
        if (s.caseRow settings b r).id = x then
          { s.caseRow settings b r with votes := .ofCount r.votes count? }
        else s.caseRow settings b r) ∧
    ((s.override x count?).view settings).openDefence = (s.view settings).openDefence ∧
    ((s.override x count?).view settings).now = (s.view settings).now ∧
    ((s.override x count?).view settings).summary = (s.view settings).summary := by
  refine ⟨fun b => ⟨bucket_view .., ?_⟩, rfl, rfl, s.summary_override settings x count?⟩
  rw [bucket_view, funext (s.caseRow_override settings x count? b)]
  rfl

end Snapshot
end CourtDocket
