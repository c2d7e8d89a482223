/-
# The order of a panel

`compare_times` and `sort_by_time` of the component `filter` of `docket-view`, §4.5 and §10.6 (7) of
the specification (DocketFilterSort).

Entries are ordered by time in one of two directions.  Those without a time come last in both, and
entries of the same time keep their order.
-/

import CourtDocket.Control.Choice
import CourtDocket.Time.Timestamp

namespace CourtDocket

/-- The order of two times that may be missing. -/
def compareTimes (order : TimeOrder) : Option Timestamp → Option Timestamp → Ordering
  | some a, some b =>
    match order with
    | .ascending => a.compare b
    | .descending => b.compare a
  | some _, none => .lt
  | none, some _ => .gt
  | none, none => .eq

variable {α : Type}

/-- Puts an entry before the first one that is not earlier. -/
def insertByTime (order : TimeOrder) (time : α → Option Timestamp) (a : α) : List α → List α
  | [] => [a]
  | b :: bs =>
    if (compareTimes order (time a) (time b)).isLE then a :: b :: bs
    else b :: insertByTime order time a bs

/-- The entries in the order of their times. -/
def sortByTime (order : TimeOrder) (time : α → Option Timestamp) (as : List α) : List α :=
  as.foldr (insertByTime order time) []

end CourtDocket
