/-
# What vote counts that are written into a record can change

When two integers are written as the counts of one case, the docket changes in the votes of the row
of this case and nowhere else (`Snapshot.ChangesVotes`), provided that both integers are counts:
they fit 64 bits, and neither is a zero with a minus.  If one is not, the whole document is refused
(`Snapshot.parse_writesCounts`), the rows of all other records with it
(`Snapshot.not_parse_writesCounts`).

The record is meant as the one at its place in its bucket: two cases may have one id.
-/

import CourtDocket.Proofs.Docket.Deletion
import CourtDocket.Proofs.Record.Blank
import CourtDocket.Proofs.Record.Counts

namespace CourtDocket

open Json

/-! ### Panels -/

section SortedPlaces

variable {α β : Type} {order : TimeOrder} {time : α → Option Timestamp} {shown : α → Bool}
  {as : List α}

/-- **A panel changes the row of the record at one place**, if the record is shown.  It shows the
records at certain places of a list before and afterwards, in the same order. -/
def ChangesRowAt (i : ℕ) (records : List α) (shown : α → Bool) (row row' : α → β)
    (before after : List β) : Prop :=
  ∃ places : List ℕ, places.Nodup ∧
    (∀ j, j ∈ places ↔ ∃ a, records[j]? = some a ∧ shown a = true) ∧
    before = places.filterMap (fun j => records[j]?.map row) ∧
    after = places.filterMap (fun j => records[j]?.map (if j = i then row' else row))

/-- An element that changes keeps its place. -/
theorem zipIdx_modify (f : α → α) (as : List α) (i : ℕ) :
    (as.modify i f).zipIdx = as.zipIdx.map fun p => (if p.2 = i then f p.1 else p.1, p.2) := by
  refine List.ext_getElem? fun j => ?_
  rw [List.getElem?_zipIdx, List.getElem?_map, List.getElem?_zipIdx, List.getElem?_modify]
  cases as[j]? with
  | none => rfl
  | some a => simp [eq_comm]

/-- An entry that keeps its time and is let through as before stays where it was. -/
theorem sortedPlaces_modify {f : α → α} (htime : ∀ a, time (f a) = time a)
    (hshown : ∀ a, shown (f a) = shown a) (i : ℕ) :
    sortedPlaces order time shown (as.modify i f) =
      (sortedPlaces order time shown as).map fun p => (if p.2 = i then f p.1 else p.1, p.2) := by
  rw [sortedPlaces, sortedPlaces, zipIdx_modify, List.filter_map, sortByTime_map]
  have htimes : ((time ∘ Prod.fst) ∘ fun p : α × ℕ => (if p.2 = i then f p.1 else p.1, p.2)) =
      time ∘ Prod.fst := by
    funext p
    show time (if p.2 = i then f p.1 else p.1) = time p.1
    split_ifs
    · exact htime p.1
    · rfl
  have hfilter : ((fun p : α × ℕ => shown p.1) ∘
      fun p : α × ℕ => (if p.2 = i then f p.1 else p.1, p.2)) = fun p => shown p.1 := by
    funext p
    show shown (if p.2 = i then f p.1 else p.1) = shown p.1
    split_ifs
    · exact hshown p.1
    · rfl
  rw [htimes, hfilter]

/-- What is made of the sorted entries is made of the entries at their places. -/
theorem map_sortedPlaces (row : ℕ → α → β) :
    (sortedPlaces order time shown as).map (fun p => row p.2 p.1) =
      ((sortedPlaces order time shown as).map Prod.snd).filterMap
        fun j => as[j]?.map (row j) := by
  rw [List.filterMap_map, ← List.filterMap_eq_map]
  refine List.filterMap_congr fun p hp => ?_
  have hget := (mem_sortedPlaces.1 hp).1
  simp [hget]

/-- **A sorted panel changes the row of the record that its list changes**, if that keeps its
time and is let through as before. -/
theorem changesRowAt_sortByTime {f : α → α} (htime : ∀ a, time (f a) = time a)
    (hshown : ∀ a, shown (f a) = shown a) (row : α → β) (i : ℕ) :
    ChangesRowAt i as shown row (row ∘ f) ((sortByTime order time (as.filter shown)).map row)
      ((sortByTime order time ((as.modify i f).filter shown)).map row) := by
  refine ⟨(sortedPlaces order time shown as).map Prod.snd, nodup_map_snd_sortedPlaces,
    fun j => ?_, ?_, ?_⟩
  · simp only [List.mem_map, mem_sortedPlaces]
    constructor
    · rintro ⟨p, ⟨hget, hp⟩, rfl⟩
      exact ⟨p.1, hget, hp⟩
    · rintro ⟨a, hget, ha⟩
      exact ⟨(a, j), ⟨hget, ha⟩, rfl⟩
  · rw [sortByTime_eq_map_sortedPlaces, List.map_map]
    exact map_sortedPlaces fun _ => row
  · rw [sortByTime_eq_map_sortedPlaces, sortedPlaces_modify htime hshown, List.map_map,
      List.map_map, ← map_sortedPlaces fun j => if j = i then row ∘ f else row]
    refine List.map_congr_left fun p _ => ?_
    show row (if p.2 = i then f p.1 else p.1) = (if p.2 = i then row ∘ f else row) p.1
    split_ifs <;> rfl

end SortedPlaces

/-- Counts that are written to one bucket leave the other as it is. -/
theorem Schedule.bucket_withVotes (s : Schedule) (b c : Bucket) (i : ℕ) (t : VoteTally) :
    (s.withVotes b i t).bucket c =
      if c = b then (s.bucket c).modify i (CaseRecord.withVotes t) else s.bucket c := by
  cases b <;> cases c <;> rfl

namespace Snapshot

variable (settings : Settings) (s : Snapshot)

/-- **The docket changes in the votes of one case only.**  The row of the case at a place of a
bucket shows the votes of another tally, all other rows of the bucket are as before and in their
order, and so are the other panels. -/
structure ChangesVotes (b : Bucket) (i : ℕ) (t : VoteTally) (s' : Snapshot) : Prop where
  /-- The bucket of the case. -/
  bucket : ChangesRowAt i (s.schedule.bucket b)
    (fun r => s.scheduleControls.filter.includes b && s.showsCase b r) (s.caseRow settings b)
    (fun r => { s.caseRow settings b r with votes := .build r.id t s.live })
    ((s.view settings).bucket b) ((s'.view settings).bucket b)
  /-- The other bucket. -/
  other : ∀ c, c ≠ b → (s'.view settings).bucket c = (s.view settings).bucket c
  /-- The open defences. -/
  openDefence : (s'.view settings).openDefence = (s.view settings).openDefence

/-- **Another tally changes the votes of its case and nothing else.** -/
theorem changesVotes_withVotes (b : Bucket) (i : ℕ) (t : VoteTally) :
    s.ChangesVotes settings b i t (s.withVotes b i t) := by
  have hrow : (s.withVotes b i t).caseRow settings = s.caseRow settings := rfl
  have hbucket : ∀ c, (s.withVotes b i t).schedule.bucket c =
      if c = b then (s.schedule.bucket c).modify i (CaseRecord.withVotes t)
      else s.schedule.bucket c :=
    fun c => s.schedule.bucket_withVotes b c i t
  constructor
  case bucket =>
    have hshown : (s.withVotes b i t).shownCases b =
        if s.scheduleControls.filter.includes b then
          sortByTime s.scheduleControls.order CaseRecord.effectiveTime?
            (((s.schedule.bucket b).modify i (CaseRecord.withVotes t)).filter (s.showsCase b))
        else [] := by
      rw [shownCases, hbucket, if_pos rfl]
      rfl
    rw [bucket_view, bucket_view, hrow, hshown, shownCases]
    split_ifs with hincludes
    · simp only [hincludes, Bool.true_and]
      exact changesRowAt_sortByTime (f := CaseRecord.withVotes t) (fun _ => rfl) (fun _ => rfl) _ i
    · exact ⟨[], List.nodup_nil, by simp [hincludes], rfl, rfl⟩
  case other =>
    intro c hc
    rw [bucket_view, bucket_view, hrow, shownCases, shownCases, hbucket, if_neg hc]
    rfl
  case openDefence => rfl

/-! ### Documents -/

variable {text text' : List Symbol} {s : Snapshot} {v : Node} {b : Bucket} {i : ℕ}
  {cast jury : Numeral}

/-- What a document is read as with two integers written as the counts of a case. -/
theorem parse_eq_ok_iff_of_writesCounts (hcast : cast.IsInteger) (hjury : jury.IsInteger)
    (hparse : parse text = .ok s)
    (hwrites : WritesCounts cast jury b i (Node.ofSymbols text).1 v)
    (htext : Node.ofSymbols text' = (v, false)) (s' : Snapshot) :
    parse text' = .ok s' ↔
      ∃ t, VoteTally.written? cast jury = some t ∧ s' = s.withVotes b i t := by
  rw [parse, Reader.document_eq_ok_iff] at hparse
  rw [parse, Reader.document_eq_ok_iff, htext, ← read_takes hcast hjury b i hwrites hparse.1 s']
  exact and_iff_left rfl

/-- **A document is accepted with two integers written as the counts of a case just when both are
counts**, and then only the votes of this case change. -/
theorem parse_writesCounts (hcast : cast.IsInteger) (hjury : jury.IsInteger)
    (hparse : parse text = .ok s)
    (hwrites : WritesCounts cast jury b i (Node.ofSymbols text).1 v)
    (htext : Node.ofSymbols text' = (v, false)) :
    ((∃ s', parse text' = .ok s') ↔ cast.FitsCount ∧ jury.FitsCount) ∧
      ∀ s', parse text' = .ok s' → ∃ t : VoteTally,
        t.cast.toInt = cast.integer ∧ t.jury.toInt = jury.integer ∧ s' = s.withVotes b i t ∧
          ∀ settings, s.ChangesVotes settings b i t s' := by
  have htakes := parse_eq_ok_iff_of_writesCounts hcast hjury hparse hwrites htext
  refine ⟨⟨?accepted, ?fits⟩, ?changes⟩
  case accepted =>
    rintro ⟨s', hs'⟩
    obtain ⟨t, ht, -⟩ := (htakes s').1 hs'
    obtain ⟨hc, hj⟩ := VoteTally.written?_eq_some_iff.1 ht
    exact ⟨(Numeral.count?_eq_some_iff.1 hc).1, (Numeral.count?_eq_some_iff.1 hj).1⟩
  case fits =>
    rintro ⟨hcastFits, hjuryFits⟩
    obtain ⟨c, hc⟩ := hcastFits.exists_count?
    obtain ⟨j, hj⟩ := hjuryFits.exists_count?
    exact ⟨_, (htakes _).2 ⟨⟨c, j⟩, VoteTally.written?_eq_some_iff.2 ⟨hc, hj⟩, rfl⟩⟩
  case changes =>
    intro s' hs'
    obtain ⟨t, ht, rfl⟩ := (htakes s').1 hs'
    obtain ⟨hc, hj⟩ := VoteTally.written?_eq_some_iff.1 ht
    exact ⟨t, (Numeral.count?_eq_some_iff.1 hc).2, (Numeral.count?_eq_some_iff.1 hj).2, rfl,
      fun settings => s.changesVotes_withVotes settings b i t⟩

/-- The document of a case and a call, with counts of the case. -/
def countedJson (c j : ℤ) : Json :=
  sparseJson [] [("votesCast", .int c), ("jurySize", .int j)] []

/-- The text of such a document. -/
def countedText (c j : ℤ) : List Symbol :=
  sparseText [] [("votesCast", .int c), ("jurySize", .int j)] []

/-- The text of the document is read as its tree. -/
theorem ofSymbols_countedText (c j : ℤ) :
    Node.ofSymbols (countedText c j) = ((countedJson c j).node, false) :=
  (writtenAs_compact _).ofSymbols_ofString

/-- The document without counts is read as the snapshot without them. -/
theorem parse_sparseText : parse (sparseText [] [] []) = .ok sparseDocket := by
  rw [parse, Reader.document_eq_ok_iff, sparseText, (writtenAs_compact _).ofSymbols_ofString]
  exact ⟨rfl, rfl⟩

/-- The counts are written into the document without them. -/
theorem writesCounts_counted (c j : ℤ) :
    WritesCounts (.ofInt c) (.ofInt j) .active 0 (Node.ofSymbols (sparseText [] [] [])).1
      (countedJson c j).node := by
  have hkey := RawString.text_ofString
  have hother := @RawString.text_ofString_ne
  rw [sparseText, (writtenAs_compact _).ofSymbols_ofString]
  refine .changed (.object (.mk ?schedule) (.there (hother (by decide)) (.here (hkey _))))
  refine .changed (.object (.mk (.array ?case .zero)) (.here (hkey _)))
  refine .changed (.object ?tally (.there (hother (by decide)) <| .there (hother (by decide)) <|
    .there (hother (by decide)) (.here (hkey _))))
  exact ⟨_, .gained rfl (.object rfl (.here (hkey _))),
    .gained rfl (.object rfl (.there (.here (hkey _))))⟩

/-- The greatest count and a negative size of the jury are written where there was no tally. -/
theorem parse_writesCounts_sparseDocket :
    WritesCounts (.ofInt 9223372036854775807) (.ofInt (-2)) .active 0
        (Node.ofSymbols (sparseText [] [] [])).1
        (countedJson 9223372036854775807 (-2)).node ∧
      ∃ s', parse (countedText 9223372036854775807 (-2)) = .ok s' ∧
        ∀ settings, sparseDocket.ChangesVotes settings .active 0 ⟨9223372036854775807, -2⟩ s' := by
  have hwrites := writesCounts_counted 9223372036854775807 (-2)
  obtain ⟨haccepted, hchanges⟩ := parse_writesCounts (Numeral.isInteger_ofInt _)
    (Numeral.isInteger_ofInt _) parse_sparseText hwrites (ofSymbols_countedText _ _)
  have hfits : (Numeral.ofInt 9223372036854775807).FitsCount ∧ (Numeral.ofInt (-2)).FitsCount :=
    ⟨⟨by decide, by decide, by decide⟩, ⟨by decide, by decide, by decide⟩⟩
  obtain ⟨s', hs'⟩ := haccepted.2 hfits
  obtain ⟨⟨c, j⟩, hc, hj, -, hview⟩ := hchanges s' hs'
  obtain rfl : c = 9223372036854775807 := Int64.toInt_inj.1 hc
  obtain rfl : j = -2 := Int64.toInt_inj.1 hj
  exact ⟨hwrites, s', hs', hview⟩

/-- **One count that does not fit refuses the whole docket.** -/
theorem not_parse_writesCounts :
    parse (sparseText [] [] []) = .ok sparseDocket ∧
      WritesCounts (.ofInt 9223372036854775808) (.ofInt 12) .active 0
        (Node.ofSymbols (sparseText [] [] [])).1 (countedJson 9223372036854775808 12).node ∧
      Node.ofSymbols (countedText 9223372036854775808 12) =
        ((countedJson 9223372036854775808 12).node, false) ∧
      parse (countedText 9223372036854775808 12) =
        .error (.wrongValue (.int 9223372036854775808) "i64") := by
  refine ⟨parse_sparseText, writesCounts_counted _ _, ofSymbols_countedText _ _, ?_⟩
  rw [parse, Reader.document, ofSymbols_countedText]
  rfl

end Snapshot
end CourtDocket
