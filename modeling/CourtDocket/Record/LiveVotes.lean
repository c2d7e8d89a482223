/-
# Live vote counts

`LiveVotes` of the component `votes` of `docket-view`, §6 of the specification.

Counts that are newer than the published ones, by the id of their case.  Each case has at most
one; a later count takes the place of an earlier one.
-/

import CourtDocket.Json.Basic
import CourtDocket.Json.Reader

namespace CourtDocket

/-- Counts by the id of their case. -/
structure LiveVotes where
  /-- The counts in the order in which they were given. -/
  entries : List (String × Int64) := []
  /-- Each case has one count. -/
  nodup : (entries.map (·.1)).Nodup := by simp
  deriving DecidableEq, Repr

namespace LiveVotes

/-- No counts. -/
def empty : LiveVotes := {}

instance : Inhabited LiveVotes := ⟨empty⟩

/-- The count of a case. -/
def get? (live : LiveVotes) (id : String) : Option Int64 :=
  live.entries.lookup id

/-- Whether a case has a count. -/
def contains (live : LiveVotes) (id : String) : Bool :=
  (live.get? id).isSome

/-- The counts without that of a case. -/
def erase (live : LiveVotes) (id : String) : LiveVotes where
  entries := live.entries.filter (·.1 ≠ id)
  nodup := live.nodup.sublist (List.filter_sublist.map _)

/-- The counts with a new one for a case. -/
def put (live : LiveVotes) (id : String) (count : Int64) : LiveVotes where
  entries := (live.erase id).entries ++ [(id, count)]
  nodup := by
    have h : id ∉ ((live.erase id).entries.map (·.1)) := by simp [erase]
    rw [List.map_append, List.nodup_append]
    refine ⟨(live.erase id).nodup, by simp, fun a ha b hb e => ?_⟩
    simp only [List.map_cons, List.map_nil, List.mem_singleton] at hb
    rw [e.trans hb] at ha
    exact h ha

/-- The counts given one after another. -/
def ofList (counts : List (String × Int64)) : LiveVotes :=
  counts.foldl (fun live c => live.put c.1 c.2) empty

/-- The document of the counts. -/
def toJson (live : LiveVotes) : Json :=
  .object (live.entries.map fun c => (c.1, .count c.2))

/-- How counts are read. -/
def read : Json.Reader LiveVotes := fun v =>
  (Json.Reader.map Json.Reader.int64 v).map ofList

end LiveVotes
end CourtDocket
