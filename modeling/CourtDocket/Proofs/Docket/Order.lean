/-
# A panel's order is the stable order by time

What it is to be the stable order of a list by time is said without a sorting algorithm
(`StablyOrdered`): nothing is lost or repeated, of two entries the one in front may stand there
(`TimeOrder.Precedes`), and the entries of one time, those without a time included, keep their
order.  At most one list is that (`StablyOrdered.unique`), since the earliest entry of the earliest
time can only come first.  `sortByTime` is insertion sort, so it is the one
(`stablyOrdered_sortByTime`).

The laws that relate two panels follow from the uniqueness and not from the algorithm: what is
filtered out after the sorting may as well be filtered out before (`sortByTime_filter`).
-/

import CourtDocket.Docket.Order
import CourtDocket.Proofs.Time.Instant
import Mathlib.Data.List.Sort

namespace CourtDocket

/-- Whether a time may stand in front of another one: any may in front of none, none may in front
of no other, and two instants stand in the chosen direction. -/
def TimeOrder.Precedes (order : TimeOrder) : Option Timestamp → Option Timestamp → Prop
  | _, none => True
  | none, some _ => False
  | some a, some b =>
    match order with
    | .ascending => a ≤ b
    | .descending => b ≤ a

namespace TimeOrder

variable {order : TimeOrder} {a b c : Option Timestamp}

/-- The comparison lets a time come first just when it precedes. -/
theorem isLE_compareTimes : (compareTimes order a b).isLE ↔ order.Precedes a b := by
  rcases a with _ | a <;> rcases b with _ | b <;> cases order <;>
    simp [compareTimes, Precedes, Timestamp.isLE_compare]

instance : DecidableRel order.Precedes := fun _ _ =>
  decidable_of_iff _ isLE_compareTimes

/-- Precedence is transitive. -/
theorem Precedes.trans (hab : order.Precedes a b) (hbc : order.Precedes b c) :
    order.Precedes a c := by
  rcases a with _ | a <;> rcases b with _ | b <;> rcases c with _ | c <;> cases order <;>
    simp only [Precedes] at *
  · exact hab.trans hbc
  · exact hbc.trans hab

/-- Times that precede each other are the same. -/
theorem Precedes.antisymm (hab : order.Precedes a b) (hba : order.Precedes b a) : a = b := by
  rcases a with _ | a <;> rcases b with _ | b <;> cases order <;> simp only [Precedes] at *
  · exact congrArg some (hab.antisymm hba)
  · exact congrArg some (hba.antisymm hab)

/-- Of two times one precedes. -/
theorem precedes_total (a b : Option Timestamp) : order.Precedes a b ∨ order.Precedes b a := by
  rcases a with _ | a <;> rcases b with _ | b <;> cases order <;> simp only [Precedes] <;>
    first | exact le_total _ _ | tauto

/-- A time precedes itself. -/
theorem precedes_refl (a : Option Timestamp) : order.Precedes a a :=
  (precedes_total a a).elim id id

end TimeOrder

variable {α β : Type} {order : TimeOrder} {time : α → Option Timestamp} {as bs cs : List α}

/-- **The stable order by time**: `bs` has the entries of `as`, those of an earlier place in the
chosen direction first, those without a time last, and those of one time as they stand in `as`. -/
structure StablyOrdered (order : TimeOrder) (time : α → Option Timestamp) (as bs : List α) :
    Prop where
  /-- No entry is lost or repeated. -/
  perm : bs.Perm as
  /-- No entry stands in front of one that must come before it. -/
  ordered : bs.Pairwise fun a b => order.Precedes (time a) (time b)
  /-- The entries of one time keep their order. -/
  ties : ∀ t, bs.filter (time · = t) = as.filter (time · = t)

/-- Two lists in order agree when they agree for each time.  The heads have the same time, as each
of them occurs in the other list, so they are the first of the same tie. -/
theorem eq_of_ordered_of_ties (hb : bs.Pairwise fun a b => order.Precedes (time a) (time b))
    (hc : cs.Pairwise fun a b => order.Precedes (time a) (time b))
    (h : ∀ t, bs.filter (time · = t) = cs.filter (time · = t)) : bs = cs := by
  have hmem : ∀ x, x ∈ bs ↔ x ∈ cs := fun x => by
    simpa using congrArg (x ∈ ·) (h (time x))
  induction bs generalizing cs with
  | nil => exact (List.eq_nil_iff_forall_not_mem.2 fun x hx => by simpa using (hmem x).2 hx).symm
  | cons b bs ih =>
    cases cs with
    | nil => simpa using (hmem b).1
    | cons c cs =>
      have hbc : order.Precedes (time b) (time c) := by
        rcases List.mem_cons.1 ((hmem c).2 (List.mem_cons_self ..)) with rfl | hmem
        · exact TimeOrder.precedes_refl _
        · exact List.rel_of_pairwise_cons hb hmem
      have hcb : order.Precedes (time c) (time b) := by
        rcases List.mem_cons.1 ((hmem b).1 (List.mem_cons_self ..)) with rfl | hmem
        · exact TimeOrder.precedes_refl _
        · exact List.rel_of_pairwise_cons hc hmem
      have htime : time b = time c := hbc.antisymm hcb
      have hheads := h (time b)
      rw [List.filter_cons_of_pos (by simp), List.filter_cons_of_pos (by simp [htime])] at hheads
      obtain rfl : b = c := (List.cons.inj hheads).1
      -- without the common head the tails agree for each time, so the induction goes on
      have htails : ∀ t, bs.filter (time · = t) = cs.filter (time · = t) := fun t => by
        have ht := h t
        rw [List.filter_cons, List.filter_cons] at ht
        split_ifs at ht
        · exact (List.cons.inj ht).2
        · exact ht
      exact congrArg (b :: ·) (ih hb.of_cons hc.of_cons htails fun x => by
        simpa using congrArg (x ∈ ·) (htails (time x)))

/-- **There is at most one stable order.** -/
theorem StablyOrdered.unique (hb : StablyOrdered order time as bs)
    (hc : StablyOrdered order time as cs) : bs = cs :=
  eq_of_ordered_of_ties hb.ordered hc.ordered fun t => (hb.ties t).trans (hc.ties t).symm

/-- Leaving entries out leaves the others in the stable order. -/
theorem StablyOrdered.filter (h : StablyOrdered order time as bs) (p : α → Bool) :
    StablyOrdered order time (as.filter p) (bs.filter p) where
  perm := h.perm.filter p
  ordered := h.ordered.filter p
  ties t := by
    rw [List.filter_comm, h.ties t, List.filter_comm]

/-- An entry is inserted as into a list that is ordered by precedence. -/
theorem insertByTime_eq_orderedInsert (a : α) (as : List α) :
    insertByTime order time a as =
      as.orderedInsert (fun a b => order.Precedes (time a) (time b)) a := by
  induction as with
  | nil => rfl
  | cons b bs ih =>
    simp only [insertByTime, List.orderedInsert_cons, TimeOrder.isLE_compareTimes, ih]

/-- Entries are sorted by insertion. -/
theorem sortByTime_eq_insertionSort (as : List α) :
    sortByTime order time as = as.insertionSort fun a b => order.Precedes (time a) (time b) := by
  induction as with
  | nil => rfl
  | cons a as ih =>
    rw [List.insertionSort_cons, ← ih, ← insertByTime_eq_orderedInsert]
    rfl

/-- **`sortByTime` gives the stable order by time.** -/
theorem stablyOrdered_sortByTime (order : TimeOrder) (time : α → Option Timestamp) (as : List α) :
    StablyOrdered order time as (sortByTime order time as) := by
  rw [sortByTime_eq_insertionSort]
  have hperm := as.perm_insertionSort fun a b => order.Precedes (time a) (time b)
  refine ⟨hperm, ?_, fun t => ?_⟩
  · have : Std.Total fun a b => order.Precedes (time a) (time b) :=
      ⟨fun _ _ => TimeOrder.precedes_total _ _⟩
    have : IsTrans α fun a b => order.Precedes (time a) (time b) :=
      ⟨fun _ _ _ => TimeOrder.Precedes.trans⟩
    exact List.pairwise_insertionSort _ _
  · -- the entries of one time are a list in order, so sorting keeps them as a sublist
    have htie : (as.filter (time · = t)).Pairwise fun a b => order.Precedes (time a) (time b) :=
      List.pairwise_of_forall_mem_list fun a ha b hb => by
        have ha : time a = t := by simpa using (List.mem_filter.1 ha).2
        have hb : time b = t := by simpa using (List.mem_filter.1 hb).2
        exact ha ▸ hb ▸ TimeOrder.precedes_refl _
    have hsub := (List.sublist_insertionSort htie List.filter_sublist).filter (time · = t)
    rw [List.filter_filter] at hsub
    simp only [Bool.and_self] at hsub
    exact (hsub.eq_of_length (hperm.filter _).length_eq.symm).symm

/-- Late times first, the two of one time as they stood, the entry without a time still last. -/
example : (sortByTime .descending Prod.snd [("a", none), ("b", Timestamp.ofMillis? 1),
    ("c", Timestamp.ofMillis? 2), ("d", Timestamp.ofMillis? 1)]).map Prod.fst =
      ["c", "b", "d", "a"] := by decide

/-- **What is filtered out after sorting may be filtered out before.** -/
theorem sortByTime_filter (p : α → Bool) (as : List α) :
    (sortByTime order time as).filter p = sortByTime order time (as.filter p) :=
  ((stablyOrdered_sortByTime order time as).filter p).unique (stablyOrdered_sortByTime ..)

/-- A narrower choice of entries shows some of those that a wider one shows, in the same order. -/
theorem sortByTime_filter_sublist {p q : α → Bool} (h : ∀ a, p a = true → q a = true)
    (as : List α) :
    (sortByTime order time (as.filter p)).Sublist (sortByTime order time (as.filter q)) := by
  have hfilter : as.filter p = (as.filter q).filter p := by
    rw [List.filter_filter]
    refine List.filter_congr fun a _ => ?_
    cases hp : p a
    · rfl
    · rw [h a hp, Bool.true_and]
  rw [hfilter, ← sortByTime_filter]
  exact List.filter_sublist

/-- Sorting what is made of entries is sorting the entries by the time of what is made of them. -/
theorem sortByTime_map (time : β → Option Timestamp) (f : α → β) (as : List α) :
    sortByTime order time (as.map f) = (sortByTime order (time ∘ f) as).map f := by
  rw [sortByTime_eq_insertionSort, sortByTime_eq_insertionSort]
  exact (List.map_insertionSort _ _ f as fun _ _ _ _ => Iff.rfl).symm

/-- Sorting neither loses nor makes entries. -/
theorem mem_sortByTime {a : α} : a ∈ sortByTime order time as ↔ a ∈ as :=
  (stablyOrdered_sortByTime order time as).perm.mem_iff

end CourtDocket
