/-
# Votes as they are shown

The component `votes` of `docket-view`, §4.4 of the specification (VoteOverlay): `resolve_votes`,
`vote_ratio`, `vote_label` and `VoteView`.

A live count takes the place of the published one, whatever it is.  The label shows the count held
between zero and the size of the jury; the ratio is the count over that size, held between zero
and one, and zero without a jury.
-/

import CourtDocket.Record.LiveVotes
import CourtDocket.Record.VoteTally

namespace CourtDocket

/-- The count of a case: the live one, else the published one. -/
def resolveVotes (id : String) (published : Int64) (live : LiveVotes) : Int64 :=
  (live.get? id).getD published

/-- The part of a jury that has voted. -/
def voteRatio (cast jury : Int64) : Binary64 :=
  if jury ≤ 0 then .zero false
  else (Binary64.ofInt cast.toInt / Binary64.ofInt jury.toInt).clampUnit

/-- The label of a count. -/
def voteLabel (cast jury : Int64) : String :=
  let size := max jury 0
  toString (max 0 (min cast size)).toInt ++ "/" ++ toString size.toInt ++ " votes"

/-- The votes of a case as they are shown. -/
structure VoteView where
  /-- The count. -/
  cast : Int64
  /-- The size of the jury. -/
  jury : Int64
  /-- The part of the jury that has voted. -/
  ratio : Binary64
  /-- The label of the count. -/
  label : String
  /-- Whether the count is a live one. -/
  live : Bool
  deriving DecidableEq

namespace VoteView

/-- The votes of a case. -/
def build (id : String) (tally : VoteTally) (live : LiveVotes) : VoteView :=
  let cast := resolveVotes id tally.cast live
  { cast
    jury := tally.jury
    ratio := voteRatio cast tally.jury
    label := voteLabel cast tally.jury
    live := live.contains id }

/-- The document of the votes. -/
def toJson (v : VoteView) : Json :=
  .object [("votesCast", .count v.cast), ("jurySize", .count v.jury), ("ratio", .float v.ratio),
    ("label", .string v.label), ("live", .bool v.live)]

end VoteView
end CourtDocket
