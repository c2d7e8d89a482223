/-
# The label and the ratio of votes agree

The label of votes is made of whole counts that are held between bounds, the ratio of rounded ones
whose rounded quotient is.  Both show the same count of the same jury:

| the count is | the label shows | the ratio is |
| --- | --- | --- |
| not positive, or of no jury | no vote | `+0` |
| at least the jury | the whole jury | `1` |
| between them | the count | the rounded part of the jury |

No operation of this is partial where it is used: the bounds are in order, and the divisor is a
number other than zero (`VoteView.build?`).
-/

import CourtDocket.Proofs.Docket.Clock
import CourtDocket.Proofs.Number.Share
import CourtDocket.Votes

namespace CourtDocket

/-- The lesser of two counts is the lesser of their integers. -/
theorem toInt_min (a b : Int64) : (min a b).toInt = min a.toInt b.toInt := by
  show (if a ≤ b then a else b).toInt = _
  split_ifs with h <;> rw [Int64.le_iff_toInt_le] at h <;> omega

/-! ### What the label shows -/

/-- The size of a jury as it is shown. -/
def shownJury (jury : Int64) : Int64 :=
  max jury 0

/-- The count of a jury as it is shown. -/
def shownCast (cast jury : Int64) : Int64 :=
  max 0 (min cast (shownJury jury))

/-- No jury of a negative size is shown. -/
theorem toInt_shownJury (jury : Int64) : (shownJury jury).toInt = max jury.toInt 0 :=
  toInt_max jury 0

/-- The count is shown between zero and the size of the jury. -/
theorem toInt_shownCast (cast jury : Int64) :
    (shownCast cast jury).toInt = max 0 (min cast.toInt (shownJury jury).toInt) := by
  rw [shownCast, toInt_max, toInt_min]
  rfl

/-! ### The ratio of a count -/

/-- Without a jury the ratio is zero. -/
theorem voteRatio_of_nonpos {jury : Int64} (h : jury.toInt ≤ 0) (cast : Int64) :
    voteRatio cast jury = .zero false :=
  if_pos (nonpos_iff.2 h)

/-- With a jury the ratio is the part of it that has voted. -/
theorem voteRatio_eq_share {jury : Int64} (h : 0 < jury.toInt) (cast : Int64) :
    voteRatio cast jury = share cast jury :=
  if_neg (nonpos_iff.not.2 h.not_ge)

/-- A ratio is a number between zero and one. -/
theorem within_voteRatio (cast jury : Int64) : (voteRatio cast jury).Within 0 1 := by
  rcases le_or_gt jury.toInt 0 with h | h
  · rw [voteRatio_of_nonpos h]
    exact (Binary64.denotes_zero false).within le_rfl zero_le_one
  · rw [voteRatio_eq_share h]
    exact within_share cast jury

/-- **The ratio of a count is that of the count that is shown.** -/
theorem voteRatio_shown (cast jury : Int64) :
    voteRatio (shownCast cast jury) (shownJury jury) = voteRatio cast jury := by
  have hjury := toInt_shownJury jury
  have hcast := toInt_shownCast cast jury
  rcases le_or_gt jury.toInt 0 with hnone | hsome
  · rw [voteRatio_of_nonpos hnone, voteRatio_of_nonpos (by omega)]
  have hsame : shownJury jury = jury := by
    rw [← Int64.toInt_inj]
    omega
  rw [hsame] at hcast ⊢
  rw [voteRatio_eq_share hsome, voteRatio_eq_share hsome]
  rcases le_or_gt cast.toInt 0 with hlow | hlow
  · rw [share_of_nonpos hsome hlow, share_of_nonpos hsome (by omega)]
  rcases le_or_gt jury.toInt cast.toInt with hhigh | hhigh
  · rw [share_of_le hsome hhigh, share_of_le hsome (by omega)]
  have hbetween : shownCast cast jury = cast := by
    rw [← Int64.toInt_inj]
    omega
  rw [hbetween]

/-- The ratio is zero for no vote and for no other count that is shown. -/
theorem voteRatio_eq_zero_iff (cast jury : Int64) :
    (voteRatio cast jury).toRat = 0 ↔ (shownCast cast jury).toInt = 0 := by
  have hjury := toInt_shownJury jury
  have hcast := toInt_shownCast cast jury
  have hzero := (Binary64.denotes_zero false).toRat_eq
  rcases le_or_gt jury.toInt 0 with hnone | hsome
  · rw [voteRatio_of_nonpos hnone]
    exact iff_of_true hzero (by omega)
  rw [voteRatio_eq_share hsome]
  rcases le_or_gt cast.toInt 0 with hlow | hlow
  · rw [share_of_nonpos hsome hlow]
    exact iff_of_true hzero (by omega)
  · exact iff_of_false (share_pos hsome hlow).ne' (by omega)

/-- The ratio of a whole jury is one. -/
theorem voteRatio_of_le {cast jury : Int64} (hjury : 0 < jury.toInt)
    (h : jury.toInt ≤ cast.toInt) : voteRatio cast jury = .one := by
  rw [voteRatio_eq_share hjury, share_of_le hjury h]

/-! ### Partial operations -/

/-- A count held between two bounds, if the bounds are in order. -/
def holdBetween? (low high n : Int64) : Option Int64 :=
  if low ≤ high then some (max low (min n high)) else none

/-- The quotient of two data, if the second is a number other than zero. -/
def quotient? (a b : Binary64) : Option Binary64 :=
  if b.isFinite = true ∧ b.toRat ≠ 0 then some (a / b) else none

/-- The part of a jury that has voted, if every operation on the way has a result. -/
def voteRatio? (cast jury : Int64) : Option Binary64 :=
  if jury ≤ 0 then some (.zero false)
  else (quotient? (.ofInt cast.toInt) (.ofInt jury.toInt)).map Binary64.clampUnit

/-- The label of a count, if every operation on the way has a result. -/
def voteLabel? (cast jury : Int64) : Option String := do
  let size := max jury 0
  let shown ← holdBetween? 0 size cast
  pure (toString shown.toInt ++ "/" ++ toString size.toInt ++ " votes")

/-- The votes of a case, if every operation on the way has a result. -/
def VoteView.build? (id : String) (tally : VoteTally) (live : LiveVotes) : Option VoteView := do
  let cast := resolveVotes id tally.cast live
  pure {
    cast
    jury := tally.jury
    ratio := ← voteRatio? cast tally.jury
    label := ← voteLabel? cast tally.jury
    live := live.contains id }

/-- A count is divided by the size of a jury only where that is a number other than zero. -/
theorem voteRatio?_eq (cast jury : Int64) : voteRatio? cast jury = some (voteRatio cast jury) := by
  rw [voteRatio?, voteRatio]
  split_ifs with h
  · rfl
  have hjury : 0 < jury.toInt := not_le.1 (nonpos_iff.not.1 h)
  have hdivisor := denotes_ofInt_toInt jury
  have hnonzero : (Binary64.ofInt jury.toInt).toRat ≠ 0 := by
    rw [hdivisor.toRat_eq]
    exact (zero_lt_one.trans_le (one_le_nearest_toInt hjury)).ne'
  rw [quotient?, if_pos ⟨hdivisor.isFinite, hnonzero⟩, Option.map_some]

/-- A count is held between bounds that are in order. -/
theorem voteLabel?_eq (cast jury : Int64) : voteLabel? cast jury = some (voteLabel cast jury) := by
  have hbounds : (0 : Int64) ≤ max jury 0 := by
    rw [Int64.le_iff_toInt_le, toInt_max]
    exact le_max_right _ _
  simp only [voteLabel?, holdBetween?, if_pos hbounds]
  rfl

namespace VoteView

/-- Every operation on the way has a result. -/
theorem build?_eq (id : String) (tally : VoteTally) (live : LiveVotes) :
    build? id tally live = some (build id tally live) := by
  simp only [build?, voteRatio?_eq, voteLabel?_eq]
  rfl

/-! ### The votes that are shown -/

/-- **Whether the label and the ratio of a view show a count of a jury.** -/
structure Shows (view : VoteView) (cast jury : Int64) : Prop where
  /-- The label has both numbers. -/
  label : view.label = toString cast.toInt ++ "/" ++ toString jury.toInt ++ " votes"
  /-- The ratio is that of both numbers. -/
  ratio : view.ratio = voteRatio cast jury
  /-- It is a number between zero and one. -/
  within : view.ratio.Within 0 1
  /-- It is zero for no vote only. -/
  eq_zero_iff : view.ratio.toRat = 0 ↔ cast.toInt = 0
  /-- It is one when the whole of a jury has voted. -/
  eq_one : cast = jury → 0 < jury.toInt → view.ratio.toRat = 1

/-- **The label and the ratio show one count of one jury**: the size of the jury with nothing below
zero, and the count, live or published, held between zero and that size.  Every operation on the
way has a result. -/
theorem build_shows (id : String) (tally : VoteTally) (live : LiveVotes) :
    ∃ cast jury : Int64, jury.toInt = max tally.jury.toInt 0 ∧
      cast.toInt = max 0 (min (resolveVotes id tally.cast live).toInt jury.toInt) ∧
      (build id tally live).Shows cast jury ∧
      build? id tally live = some (build id tally live) := by
  have hshown := voteRatio_shown (resolveVotes id tally.cast live) tally.jury
  refine ⟨shownCast (resolveVotes id tally.cast live) tally.jury, shownJury tally.jury,
    toInt_shownJury _, toInt_shownCast _ _, ?_, build?_eq id tally live⟩
  constructor
  case label => rfl
  case ratio => exact hshown.symm
  case within => exact within_voteRatio _ _
  case eq_zero_iff => exact voteRatio_eq_zero_iff _ _
  case eq_one =>
    intro hall hjury
    show (voteRatio _ tally.jury).toRat = 1
    rw [← hshown, hall, voteRatio_of_le hjury le_rfl]
    exact Binary64.denotes_one.toRat_eq

end VoteView

/-- One of a very large jury does not show in the ratio. -/
example : voteRatio 9007199254740992 9007199254740993 = .one := by
  decide +kernel

end CourtDocket
