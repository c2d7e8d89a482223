/-
# The documents of a docket

The document of a docket has a member for each panel, and every row is an object.  Some members of
a row come from the seat and from the policy; no name stands twice for it
(`DocketView.distinctNames_toJson`).

The document of the counts can be checked against that of the docket: `CountsRows` says what the
counts are by the rows that a reader of the document finds, and not by way of `DocketView`.
-/

import CourtDocket.Proofs.Docket.SeatFields
import CourtDocket.Proofs.Json.Value

namespace CourtDocket

open Json

/-! ### No name stands twice -/

namespace Json

variable {α : Type} {f : α → Json}

/-- What may be missing has distinct names if what is there has. -/
theorem distinctNames_ofOption (h : ∀ a, (f a).DistinctNames) (o : Option α) :
    (ofOption f o).DistinctNames := by
  cases o with
  | none => exact .null
  | some a => exact h a

/-- A count has no names. -/
@[simp] theorem distinctNames_count (n : Int64) : (count n).DistinctNames :=
  .int n.toInt

/-- A count that may be missing has no names. -/
@[simp] theorem distinctNames_ofOption_count (o : Option Int64) :
    (ofOption count o).DistinctNames :=
  distinctNames_ofOption distinctNames_count o

/-- A text that may be missing has no names. -/
@[simp] theorem distinctNames_textJson (s : Option String) : (textJson s).DistinctNames :=
  distinctNames_ofOption .string s

/-- A list of texts has no names. -/
@[simp] theorem distinctNames_strings (ss : List String) : (strings ss).DistinctNames :=
  distinctNames_array_iff.2 (List.forall_mem_map.2 fun s _ => .string s)

end Json

/-- The votes have distinct names. -/
theorem VoteView.distinctNames_toJson (v : VoteView) : v.toJson.DistinctNames := by
  simp [toJson]

/-- A countdown has distinct names. -/
theorem Countdown.distinctNames_toJson (c : Countdown) : c.toJson.DistinctNames := by
  simp [toJson]

/-- A row of the schedule has distinct names, those in its parts included. -/
theorem ScheduleRow.distinctNames_toJson (r : ScheduleRow) : r.toJson.DistinctNames := by
  have hcountdown := distinctNames_ofOption Countdown.distinctNames_toJson r.countdown
  have hvotes := r.votes.distinctNames_toJson
  simp [toJson, seatMembers, policyMembers, hcountdown, hvotes]

/-- A row of the open defences has distinct names, those in its parts included. -/
theorem OpenDefenceRow.distinctNames_toJson (r : OpenDefenceRow) : r.toJson.DistinctNames := by
  have hcountdown := distinctNames_ofOption Countdown.distinctNames_toJson r.countdown
  simp [toJson, seatMembers, policyMembers, hcountdown]

/-- **No object of a docket's document has a name twice.** -/
theorem DocketView.distinctNames_toJson (v : DocketView) : v.toJson.DistinctNames := by
  simp [toJson, ScheduleRow.distinctNames_toJson, OpenDefenceRow.distinctNames_toJson]

/-- The summary has distinct names. -/
theorem DocketSummary.distinctNames_toJson (s : DocketSummary) : s.toJson.DistinctNames := by
  simp [toJson]

/-! ### Members as they are told -/

namespace Json

variable {key : String} {v : Json}

/-- What is told of a value has under a name what is told of the member. -/
theorem member?_told (v : Json) (key : String) :
    v.told.member? key = (v.member? key).map told := by
  cases v with
  | object members =>
    rw [told, toldMembers_eq_map, member?, member?]
    induction members with
    | nil => rfl
    | cons m ms ih =>
      rw [List.map_cons, List.lookup_cons, List.lookup_cons, ih]
      cases key == m.1 <;> rfl
  | float x =>
    rw [told]
    split_ifs <;> rfl
  | _ => rfl

/-- The items of the list under a name. -/
def rows (key : String) (v : Json) : List Json :=
  match v.member? key with
  | some (.array items) => items
  | _ => []

/-- Whether there is the word `true` under a name. -/
def flag (key : String) (v : Json) : Bool :=
  match v.member? key with
  | some (.bool b) => b
  | _ => false

/-- A list under a name is told item by item. -/
theorem member?_told_array {items : List Json} (h : v.member? key = some (.array items)) :
    v.told.member? key = some (.array (items.map told)) := by
  rw [member?_told, h, Option.map_some, told, toldItems_eq_map]

/-- The rows under a name are the items of the list that is there. -/
theorem rows_of_member? {items : List Json} (h : v.member? key = some (.array items)) :
    v.rows key = items := by
  rw [rows, h]

/-- A flag is the truth value that is there. -/
theorem flag_of_member? {b : Bool} (h : v.member? key = some (.bool b)) : v.flag key = b := by
  rw [flag, h]

end Json

/-! ### Counting the rows of a document -/

/-- **What the counts of a docket are by its document.** -/
structure CountsRows (full counts : Json) : Prop where
  /-- Every panel is a list of rows. -/
  panels : ∀ key ∈ ["active", "scheduled", "openDefence"],
    full.member? key = some (.array (full.rows key))
  /-- The rows of cases being heard. -/
  activeRows : counts.member? "activeRows" = some (.int (full.rows "active").length)
  /-- The rows of cases to be heard. -/
  scheduledRows : counts.member? "scheduledRows" = some (.int (full.rows "scheduled").length)
  /-- The rows of calls for a defence. -/
  openDefenceRows :
    counts.member? "openDefenceRows" = some (.int (full.rows "openDefence").length)
  /-- The rows of calls for a defence that may be claimed. -/
  claimableRows : counts.member? "claimableRows" =
    some (.int ((full.rows "openDefence").countP (·.flag "claimable")))
  /-- The rows of all panels that are out of the policy window. -/
  outOfPolicyRows : counts.member? "outOfPolicyRows" =
    some (.int ((full.rows "active" ++ full.rows "scheduled" ++ full.rows "openDefence").countP
      (·.flag "outOfPolicyWindow")))

/-- What the document of a row says of the policy is what the row says. -/
theorem ScheduleRow.flag_told (r : ScheduleRow) :
    r.toJson.told.flag "outOfPolicyWindow" = r.policy.outOfWindow := by
  refine flag_of_member? ?_
  rw [member?_told]
  rfl

/-- The document of a row tells by two flags whether its seat can be claimed and whether it breaks
the policy. -/
theorem OpenDefenceRow.flag_told (r : OpenDefenceRow) :
    r.toJson.told.flag "claimable" = r.seat.status.isClaimable ∧
      r.toJson.told.flag "outOfPolicyWindow" = r.policy.outOfWindow := by
  constructor <;>
  · refine flag_of_member? ?_
    rw [member?_told]
    rfl

/-- **The counts of a docket are those of its document.** -/
theorem DocketView.countsRows (v : DocketView) :
    CountsRows v.toJson.told v.summary.toJson.told := by
  have hactive : v.toJson.told.member? "active" =
      some (.array ((v.active.map ScheduleRow.toJson).map told)) := member?_told_array rfl
  have hscheduled : v.toJson.told.member? "scheduled" =
      some (.array ((v.scheduled.map ScheduleRow.toJson).map told)) := member?_told_array rfl
  have hcalls : v.toJson.told.member? "openDefence" =
      some (.array ((v.openDefence.map OpenDefenceRow.toJson).map told)) := member?_told_array rfl
  -- a row is counted by its flag in the document just when the summary counts the row
  have hclaimable : (v.toJson.told.rows "openDefence").countP (·.flag "claimable") =
      v.summary.claimableRows := by
    rw [rows_of_member? hcalls, List.countP_map, List.countP_map]
    exact List.countP_congr fun r _ => by rw [← r.flag_told.1]; rfl
  have houtOfPolicy : (v.toJson.told.rows "active" ++ v.toJson.told.rows "scheduled" ++
      v.toJson.told.rows "openDefence").countP (·.flag "outOfPolicyWindow") =
      v.summary.outOfPolicyRows := by
    rw [rows_of_member? hactive, rows_of_member? hscheduled, rows_of_member? hcalls,
      List.countP_append, ← List.map_append, ← List.map_append]
    simp only [List.countP_map]
    refine congrArg₂ (· + ·) (List.countP_congr fun r _ => ?_) (List.countP_congr fun r _ => ?_)
    · rw [← r.flag_told]
      rfl
    · rw [← r.flag_told.2]
      rfl
  constructor
  case panels => simp [hactive, hscheduled, hcalls, rows_of_member?]
  case activeRows =>
    rw [rows_of_member? hactive, member?_told, List.length_map, List.length_map]
    rfl
  case scheduledRows =>
    rw [rows_of_member? hscheduled, member?_told, List.length_map, List.length_map]
    rfl
  case openDefenceRows =>
    rw [rows_of_member? hcalls, member?_told, List.length_map, List.length_map]
    rfl
  case claimableRows =>
    rw [hclaimable, member?_told]
    rfl
  case outOfPolicyRows =>
    rw [houtOfPolicy, member?_told]
    rfl

end CourtDocket
