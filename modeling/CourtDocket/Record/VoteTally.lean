/-
# Vote tallies

`VoteSummary` of `docket-core`, §3 and §10.6 (8) of the specification.

How many of a jury have voted, as published with a case.  The counts may be anything that fits 64
bits; a count that is missing or `null` is zero.
-/

import CourtDocket.Json.Basic
import CourtDocket.Json.Record

namespace CourtDocket

/-- The published votes of a case. -/
structure VoteTally where
  /-- The votes cast. -/
  cast : Int64 := 0
  /-- The size of the jury. -/
  jury : Int64 := 0
  deriving DecidableEq, Repr, Inhabited

open Json

namespace VoteTally

/-- The document of a tally. -/
def toJson (v : VoteTally) : Json :=
  .object [("votesCast", .count v.cast), ("jurySize", .count v.jury)]

/-- The field `votesCast`. -/
def castField : RecordField Int64 := .lenient "votesCast" 0 Reader.int64

/-- The field `jurySize`. -/
def juryField : RecordField Int64 := .lenient "jurySize" 0 Reader.int64

/-- How a tally is read. -/
def record : Record VoteTally where
  name := "VoteSummary"
  slots := [castField.slot, juryField.slot]
  build := fun node? => do
    pure { cast := ← castField.take node?, jury := ← juryField.take node? }

end VoteTally
end CourtDocket
