/-
# How fine the instants are that the docket holds

An instant that is a whole number of milliseconds is that of its count of milliseconds
(`ofMillis?_epochMillis_iff`), and such instants are told apart and put in order by their counts
(`compare_eq_of_ofMillis?_epochMillis`).  The docket does not make such instants only:

| made from | are whole milliseconds |
| --- | --- |
| a count of milliseconds | all |
| a text of the docket (`parse`, `parseOptional`) | all but those of the leap second past the end of the calendar, which has no millisecond to be cut to |
| a string of a JSON document | those that the document writes so |

The last line is exact: every instant there is can be read from a document, down to the
nanosecond, leap seconds at the end of a minute included (`exists_read_iff`).
-/

import CourtDocket.Proofs.Json.Reader
import CourtDocket.Proofs.Time.IsoText
import CourtDocket.Time.Published

namespace CourtDocket

open Number

/-- A step that gives a value is that value's success. -/
theorem ok_of_toOption {ε α : Type} {x : Except ε α} {a : α} (h : x.toOption = some a) :
    x = .ok a := by
  cases x with
  | error e => cases h
  | ok b => exact congrArg _ (Option.some.inj h)

/-! ### What a reader of texts may give -/

namespace TimeScan

variable {α β : Type} {s : TimeScan α} {f : α → TimeScan β} {P : α → Prop} {Q : β → Prop}

/-- **Whether all that a step gives has a property.** -/
def Gives (s : TimeScan α) (P : α → Prop) : Prop :=
  ∀ ⦃cs a rest⦄, s.Reads cs a rest → P a

/-- The property that everything has is one of all that a step gives. -/
theorem gives_true (s : TimeScan α) : s.Gives fun _ => True :=
  fun _ _ _ _ => trivial

/-- A scan that is done gives its value. -/
theorem gives_pure {a : α} (h : P a) : Gives (pure a) P := by
  rintro cs b rest hreads
  cases hreads
  exact h

/-- A scan that refuses gives nothing. -/
theorem gives_throw (fault : TimeFault) : Gives (throw fault : TimeScan α) P := by
  rintro cs a rest hreads
  cases hreads

/-- Two scans after each other give what the second one gives of what the first gives. -/
theorem Gives.bind (h : s.Gives P) (h' : ∀ a, P a → (f a).Gives Q) : Gives (s >>= f) Q := by
  intro cs b rest hreads
  rw [Reads, StateT.run_bind] at hreads
  cases hrun : s.run cs with
  | error fault =>
    rw [hrun] at hreads
    cases hreads
  | ok found =>
    rw [hrun] at hreads
    exact h' found.1 (h hrun) hreads

/-- What a step gives does not matter for what follows it. -/
theorem gives_bind (s : TimeScan α) (h : ∀ a, (f a).Gives Q) : Gives (s >>= f) Q :=
  (gives_true s).bind fun a _ => h a

/-- Nothing follows a fault. -/
theorem gives_throw_bind (fault : TimeFault) : Gives (throw fault >>= f) Q :=
  (gives_throw (P := fun _ => False) fault).bind fun _ h => h.elim

/-- An offset is a whole number of minutes. -/
theorem offset_gives (separator : TimeScan Unit) :
    (offset separator).Gives fun off => off % 60 = 0 := by
  rw [offset]
  refine gives_bind _ fun cs => ?_
  rcases cs with _ | ⟨c, cs⟩
  · exact gives_throw _
  · simp only
    split
    · exact gives_bind _ fun _ => gives_pure rfl
    · split
      · refine gives_bind _ fun _ => gives_bind _ fun hours => ?_
        refine gives_bind _ fun _ => gives_bind _ fun minutes => gives_pure ?_
        split <;> omega
      · exact gives_throw _

end TimeScan

namespace Timestamp

/-- Whether an instant is in a second of the calendar's days: an ordinary one, or a leap second at
the end of a minute. -/
def IsCivil (t : Timestamp) : Prop :=
  t.nano < 1000000000 ∨ t.second % 60 = 59

/-! ### Instants and their counts -/

variable {t : Timestamp}

/-- **An instant is that of its count of milliseconds when it is a whole number of them.** -/
theorem ofMillis?_epochMillis_iff : ofMillis? t.epochMillis.toInt = some t ↔ t.IsWhole := by
  rw [toInt_epochMillis, ofMillis?_eq_some_iff]
  exact and_iff_left rfl

/-- **Whole milliseconds are told apart and ordered by their counts.** -/
theorem compare_eq_of_ofMillis?_epochMillis {a b : Timestamp}
    (ha : ofMillis? a.epochMillis.toInt = some a) (hb : ofMillis? b.epochMillis.toInt = some b) :
    a.compare b = Ord.compare a.epochMillis.toInt b.epochMillis.toInt := by
  obtain ⟨halt, hamod⟩ := ofMillis?_epochMillis_iff.1 ha
  obtain ⟨hblt, hbmod⟩ := ofMillis?_epochMillis_iff.1 hb
  rw [Timestamp.compare, toInt_epochMillis, toInt_epochMillis, millis, millis]
  split_ifs with hlt hgt
  · rw [eq_comm, Int.compare_eq_lt]
    omega
  · rw [eq_comm, Int.compare_eq_gt]
    omega
  · rcases Nat.lt_trichotomy a.nano b.nano with h | h | h
    · rw [Nat.compare_eq_lt.2 h, eq_comm, Int.compare_eq_lt]
      omega
    · rw [Nat.compare_eq_eq.2 h, eq_comm, Int.compare_eq_eq]
      omega
    · rw [Nat.compare_eq_gt.2 h, eq_comm, Int.compare_eq_gt]
      omega

/-- A count has no instant only past the end of the calendar, where leap seconds reach. -/
theorem ofMillis?_millis_eq_none_iff :
    ofMillis? t.millis = none ↔ t.second = 8210266876799 ∧ 1000000000 ≤ t.nano := by
  obtain ⟨hlow, hhigh⟩ := t.second_range
  have hnano := t.nano_lt
  rw [ofMillis?, ofSeconds?, dite_eq_right_iff, millis]
  constructor
  · intro h
    by_contra hinside
    exact absurd (h ⟨⟨by omega, by omega⟩, by omega⟩) (by simp)
  · rintro ⟨hlast, hleap⟩ ⟨⟨-, hrange⟩, -⟩
    omega

/-- **Cutting an instant makes it whole**, unless it is past the end of the calendar. -/
theorem truncate_cases (t : Timestamp) :
    ofMillis? t.truncate.epochMillis.toInt = some t.truncate ∨
      t.truncate.second = 8210266876799 ∧ 1000000000 ≤ t.truncate.nano := by
  rw [truncate]
  cases hmillis : ofMillis? t.millis with
  | some u =>
    left
    obtain ⟨hwhole, -⟩ := ofMillis?_eq_some_iff.1 hmillis
    exact ofMillis?_epochMillis_iff.2 hwhole
  | none =>
    right
    exact ofMillis?_millis_eq_none_iff.1 hmillis

/-- What is read is cut to milliseconds. -/
theorem exists_truncate_of_parse {s : String} (h : parse s = .ok t) :
    ∃ u : Timestamp, t = u.truncate := by
  rw [parse] at h
  cases hstrict : Timestamp.readStrict (Text.trimChars s.toList) with
  | ok u =>
    rw [hstrict] at h
    exact ⟨u, (Except.ok.inj h).symm⟩
  | error fault =>
    rw [hstrict] at h
    cases hzoneless : Timestamp.readZoneless? (Text.trimChars s.toList) with
    | some u =>
      rw [hzoneless] at h
      exact ⟨u, (Except.ok.inj h).symm⟩
    | none =>
      rw [hzoneless] at h
      cases h

/-- What is read of a text that may be missing is read of a text. -/
theorem exists_parse_of_parseOptional {s? : Option String} (h : parseOptional s? = some t) :
    ∃ s, parse s = .ok t := by
  rcases s? with _ | s
  · cases h
  · rw [parseOptional] at h
    split_ifs at h
    exact ⟨s, ok_of_toOption h⟩

/-! ### The relaxed form -/

/-- The instant of a date and a time of day at a whole number of minutes is a civil one. -/
theorem isCivil_of_ofCivil? {date : Date} {time : TimeOfDay} {off : ℤ} (hoff : off % 60 = 0)
    (htime : time.isValid = true) (h : ofCivil? date time off = some t) : t.IsCivil := by
  rw [TimeOfDay.isValid, decide_eq_true_iff] at htime
  rw [ofCivil?, ofSeconds?_eq_some_iff] at h
  obtain ⟨hsecond, hnano⟩ := h
  rw [IsCivil]
  split_ifs at hsecond hnano
  · right
    omega
  · left
    omega

/-- A valid time of day and an offset in minutes give a civil instant. -/
theorem scanned_gives {date : Date} {time : TimeOfDay} {off : ℤ} (hoff : off % 60 = 0) :
    (scanned date time off).Gives IsCivil := by
  rw [scanned]
  split
  · exact TimeScan.gives_throw_bind _
  · next hvalid =>
    have htime : time.isValid = true := by
      by_contra hinvalid
      simp [hinvalid] at hvalid
    simp only
    split
    · next h => exact TimeScan.gives_pure (isCivil_of_ofCivil? hoff htime h)
    · exact TimeScan.gives_throw _

/-- The relaxed form gives civil instants only. -/
theorem scanRelaxed_gives : scanRelaxed.Gives IsCivil := by
  -- what follows the offset, and what follows the date
  have hend : ∀ (date : Date) (time : TimeOfDay) (off : ℤ), off % 60 = 0 →
      (do TimeScan.skipBlanks; TimeScan.finished; scanned date time off).Gives IsCivil :=
    fun date time off hoff =>
      TimeScan.gives_bind _ fun _ => TimeScan.gives_bind _ fun _ => scanned_gives hoff
  rw [scanRelaxed]
  refine TimeScan.gives_bind _ fun date => TimeScan.gives_bind _ fun cs => ?_
  rcases cs with _ | ⟨c, cs⟩
  · exact TimeScan.gives_throw_bind _
  · simp only
    split
    · refine TimeScan.gives_bind _ fun _ => TimeScan.gives_bind _ fun time => ?_
      refine TimeScan.gives_bind _ fun _ => TimeScan.gives_bind _ fun rest => ?_
      split
      · split
        · exact TimeScan.gives_bind _ fun _ => hend date time 0 rfl
        · exact (TimeScan.offset_gives _).bind (hend date time)
      · exact (TimeScan.offset_gives _).bind (hend date time)
    · exact TimeScan.gives_throw_bind _

/-- The digits below the second as many as are needed, with their point. -/
def neededFraction (n : ℕ) : List Char :=
  if n = 0 then []
  else if n % 1000000 = 0 then '.' :: padded 3 (n / 1000000)
  else if n % 1000 = 0 then '.' :: padded 6 (n / 1000)
  else '.' :: padded 9 n

/-- The full text of an instant is its date, its time of the day and the fraction that it needs. -/
theorem toList_fullText (t : Timestamp) : t.fullText.toList =
    t.date.text ++
      'T' :: (t.timeOfDay.text ++ (neededFraction (t.nano % 1000000000) ++ ['Z'])) := by
  rw [fullText, String.toList_ofList, civilText]
  simp only [Date.text, TimeOfDay.text, date, timeOfDay, neededFraction, List.append_assoc,
    List.cons_append, List.nil_append]

/-- A fraction is read back to its nanoseconds. -/
theorem reads_padded_fraction {w k n : ℕ} (hw : 0 < w) (hw9 : w ≤ 9) (hk : k < 10 ^ w)
    (hn : k * 10 ^ (9 - w) = n) :
    TimeScan.optionalFraction.Reads ('.' :: padded w k ++ ['Z']) n ['Z'] := by
  have hlength : (padded w k).length = w := length_padded hw hk
  have hzone : ∀ c, ['Z'].head? = some c → isDigit c = false := by
    rintro c ⟨⟩
    decide
  have hreads := TimeScan.reads_optionalFraction (padded_ne_nil w k)
    (fun _ hc => isDigit_of_mem_padded hc) hzone
  rwa [List.take_of_length_le (by omega), hlength, ofDigits_padded, hn] at hreads

/-- The fraction that is needed is read back as its nanoseconds. -/
theorem reads_neededFraction {n : ℕ} (hn : n < 1000000000) :
    TimeScan.optionalFraction.Reads (neededFraction n ++ ['Z']) n ['Z'] := by
  rw [neededFraction]
  split_ifs with hzero hmillis hmicros
  · rw [hzero]
    rfl
  · exact reads_padded_fraction (by decide) (by decide) (by omega) (by omega)
  · exact reads_padded_fraction (by decide) (by decide) (by omega) (by omega)
  · exact reads_padded_fraction (by decide) (by decide) (by omega) (by omega)

/-- Date and time of day make a civil instant again. -/
theorem IsCivil.ofCivil? (h : t.IsCivil) : ofCivil? t.date t.timeOfDay 0 = some t := by
  have hnano := t.nano_lt
  rw [IsCivil] at h
  rw [Timestamp.ofCivil?, ofSeconds?_eq_some_iff, date, Date.toDays_ofDays]
  simp only [timeOfDay]
  split_ifs <;> omega

/-- **The full text of a civil instant is read back to it** in the relaxed form. -/
theorem IsCivil.readRelaxed_fullText (h : t.IsCivil) : readRelaxed t.fullText = .ok t := by
  obtain ⟨hlow, hhigh, hcivil⟩ := Date.isValid_iff.1 t.isValid_date
  have hyear : -2147483648 ≤ t.date.year ∧ t.date.year ≤ 2147483647 := by omega
  have hgap : ∀ c, c = '-' ∨ c = ':' → ∀ cs, TimeScan.skipBlanks.Reads (c :: cs) () (c :: cs) :=
    fun c hc cs => TimeScan.reads_skipBlanks (by rcases hc with rfl | rfl <;> decide) cs
  have htail : TimeScan.optionalFraction.Reads
      (neededFraction (t.nano % 1000000000) ++ ['Z']) t.timeOfDay.nano ['Z'] :=
    reads_neededFraction (Nat.mod_lt _ (by decide))
  have hreads : scanRelaxed.Reads t.fullText.toList t [] := by
    rw [toList_fullText, scanRelaxed]
    refine (TimeScan.reads_scanDate hcivil hyear (hgap _ (.inl rfl)) _).bind ?_
    refine (TimeScan.reads_left _).bind ?_
    simp only [true_or, if_true]
    refine (TimeScan.reads_set ..).bind ?_
    refine (TimeScan.reads_scanTime t.isValid_timeOfDay (hgap _ (.inr rfl)) htail).bind ?_
    refine (TimeScan.reads_skipBlanks (by decide) _).bind ((TimeScan.reads_left _).bind ?_)
    refine (TimeScan.reads_offset_utc _ []).bind ?_
    have hblanks : TimeScan.skipBlanks.Reads [] () [] := rfl
    refine hblanks.bind (TimeScan.reads_finished.bind ?_)
    exact TimeScan.reads_scanned t.isValid_date t.isValid_timeOfDay (by decide) h.ofCivil? []
  rw [TimeScan.Reads] at hreads
  rw [readRelaxed, hreads]
  rfl

/-- A string that spells an instant in the relaxed form is read as that instant. -/
theorem read_string {s : String} (h : readRelaxed s = .ok t) :
    Timestamp.read (Json.string s).node = .ok t := by
  have htext : Json.Reader.text "an RFC 3339 formatted date and time string" (Json.string s).node =
      .ok s := by
    rw [Json.node, Json.Reader.text, Json.RawString.text_ofString, Json.orMalformed]
    rfl
  rw [Timestamp.read, Json.bind_eq_ok_iff]
  refine ⟨s, htext, ?_⟩
  rw [h]
  rfl

/-- **Which instants a document gives**: all civil ones, down to the nanosecond. -/
theorem exists_read_iff : (∃ v, Timestamp.read v = .ok t) ↔ t.IsCivil := by
  constructor
  · rintro ⟨v, hread⟩
    simp only [Timestamp.read, Json.bind_eq_ok_iff] at hread
    obtain ⟨s, -, hs⟩ := hread
    cases hrun : scanRelaxed.run s.toList with
    | error fault =>
      simp [readRelaxed, hrun, Except.map, throw, throwThe, MonadExceptOf.throw] at hs
    | ok found =>
      have hcivil : found.1.IsCivil := scanRelaxed_gives hrun
      simp only [readRelaxed, hrun, Except.map] at hs
      cases hs
      exact hcivil
  · intro h
    exact ⟨(Json.string t.fullText).node, read_string h.readRelaxed_fullText⟩

/-- **How fine the instants are.**  The instant of a count of milliseconds and, but for the leap
second past the end of the calendar, the instant of a text are those of their own counts; a
document gives every civil instant, of which those are not that are in a leap second or have digits
below the millisecond.  Instants that are those of their counts are equal and ordered as the counts
are. -/
theorem made_precision (t u : Timestamp) :
    (∀ ms, ofMillis? ms = some t → ofMillis? t.epochMillis.toInt = some t) ∧
    (∀ s, parse s = .ok t ∨ parseOptional (some s) = some t →
      ofMillis? t.epochMillis.toInt = some t ∨
        t.second = 8210266876799 ∧ 1000000000 ≤ t.nano) ∧
    ((∃ v, Timestamp.read v = .ok t) ↔ t.IsCivil) ∧
    (ofMillis? t.epochMillis.toInt = some t ↔
      t.nano < 1000000000 ∧ t.nano % 1000000 = 0) ∧
    (ofMillis? t.epochMillis.toInt = some t → ofMillis? u.epochMillis.toInt = some u →
      (t = u ↔ t.epochMillis = u.epochMillis) ∧
        t.compare u = Ord.compare t.epochMillis.toInt u.epochMillis.toInt) := by
  refine ⟨fun ms h => ?_, fun s h => ?_, exists_read_iff, ?_,
    fun ht hu => ⟨?_, compare_eq_of_ofMillis?_epochMillis ht hu⟩⟩
  · exact ofMillis?_epochMillis_iff.2 (ofMillis?_eq_some_iff.1 h).1
  · have hparse : ∃ s, parse s = .ok t := h.elim (fun h => ⟨s, h⟩) exists_parse_of_parseOptional
    obtain ⟨_, hparse⟩ := hparse
    obtain ⟨w, rfl⟩ := exists_truncate_of_parse hparse
    exact w.truncate_cases
  · rw [ofMillis?_epochMillis_iff]
    exact ⟨fun h => ⟨h.nano_lt, h.nano_mod⟩, fun h => ⟨h.1, h.2⟩⟩
  · constructor
    · rintro rfl
      rfl
    · intro h
      rw [h, hu] at ht
      exact (Option.some.inj ht).symm

/-- The last two milliseconds before the epoch, the first of them from a text that is cut to it. -/
theorem made_precision_before_epoch :
    ∃ a b : Timestamp, parse "1969-12-31T23:59:59.998999Z" = .ok a ∧ ofMillis? (-1) = some b ∧
      (ofMillis? a.epochMillis.toInt = some a ∨
        a.second = 8210266876799 ∧ 1000000000 ≤ a.nano) ∧
      ofMillis? b.epochMillis.toInt = some b ∧
      (a = b ↔ a.epochMillis = b.epochMillis) ∧
      a.compare b = Ord.compare a.epochMillis.toInt b.epochMillis.toInt ∧ a.compare b = .lt := by
  let a : Timestamp := ⟨-1, 998000000, by decide, by decide⟩
  let b : Timestamp := ⟨-1, 999000000, by decide, by decide⟩
  have ha : parse "1969-12-31T23:59:59.998999Z" = .ok a := ok_of_toOption (by decide +kernel)
  have hb : ofMillis? (-1) = some b := by decide
  obtain ⟨-, htext, -, -, horder⟩ := made_precision a b
  have hwhole := htext _ (.inl ha)
  have hcount := (made_precision b a).1 _ hb
  obtain ⟨heq, hcompare⟩ := horder (hwhole.resolve_right (by decide)) hcount
  exact ⟨a, b, ha, hb, hwhole, hcount, heq, hcompare, by decide⟩

/-- **A document gives instants that are finer than milliseconds**: this one has the count of
another instant, comes after it, and is that of no count.  The last second of the calendar is
cut to no millisecond either when it is a leap second. -/
theorem not_made_whole :
    (∃ t u, Timestamp.read (Json.string "1969-12-31T23:59:59.999999Z").node = .ok t ∧
      parse "1969-12-31T23:59:59.999999Z" = .ok u ∧ t.epochMillis = u.epochMillis ∧ t ≠ u ∧
      t.compare u = .gt ∧ ofMillis? t.epochMillis.toInt ≠ some t) ∧
    ∃ t, parse "+262142-12-31T23:59:60" = .ok t ∧ ofMillis? t.epochMillis.toInt = none := by
  refine ⟨⟨⟨-1, 999999000, by decide, by decide⟩, ⟨-1, 999000000, by decide, by decide⟩, ?_⟩,
    ⟨8210266876799, 1000000000, by decide, by decide⟩, ?_⟩
  · refine ⟨?_, ?_, by decide, by decide, by decide, by decide⟩
    · exact read_string (ok_of_toOption (by decide +kernel))
    · exact ok_of_toOption (by decide +kernel)
  · refine ⟨ok_of_toOption (by decide +kernel), by decide⟩

end Timestamp
end CourtDocket
