/-
# Instants, their milliseconds and their texts

A count of milliseconds has an instant when its day lies in the calendar's years
(`exists_ofMillis?_iff`), and the instant gives the count back.  Its text is the date and the time
of day in UTC with three digits below the second, which `Timestamp.parse` reads in its strict form
if the year has four digits.  A year that needs a sign is in none of the forms:

| form | refuses the text |
| --- | --- |
| strict | at the sign |
| date and time without a zone | at the zone, `Z` |
| date alone | at the time, `T` |
-/

import CourtDocket.Proofs.Time.Instant
import CourtDocket.Proofs.Time.Scan
import Mathlib.Data.String.Basic

namespace CourtDocket

open Number

/-- The days of the calendar's years. -/
theorem Date.year_ofDays_range_iff {n : ℤ} :
    (-262143 ≤ (ofDays n).year ∧ (ofDays n).year ≤ 262142) ↔ -96465292 ≤ n ∧ n < 95026237 := by
  have hfirst : toDays ⟨-262143, 1, 1⟩ = -96465292 := by decide
  have hend : toDays ⟨262143, 1, 1⟩ = 95026237 := by decide
  have hlast := le_year_ofDays_iff (y := 262143) (n := n)
  rw [hend] at hlast
  rw [le_year_ofDays_iff, hfirst]
  omega

namespace Timestamp

/-! ### Instants of whole milliseconds -/

/-- Whether an instant is a whole number of milliseconds and not in a leap second. -/
structure IsWhole (t : Timestamp) : Prop where
  /-- It is not in a leap second. -/
  nano_lt : t.nano < 1000000000
  /-- Nothing is below the millisecond. -/
  nano_mod : t.nano % 1000000 = 0

/-- An instant is made of a second and nanoseconds that it is then made of. -/
theorem ofSeconds?_eq_some_iff {second : ℤ} {nano : ℕ} {t : Timestamp} :
    ofSeconds? second nano = some t ↔ t.second = second ∧ t.nano = nano := by
  rw [ofSeconds?]
  constructor
  · intro h
    split_ifs at h
    obtain rfl := Option.some.inj h
    exact ⟨rfl, rfl⟩
  · rintro ⟨rfl, rfl⟩
    rw [dif_pos ⟨t.second_range, t.nano_lt⟩]

/-- **The instant of a count of milliseconds** is the whole one that has this count. -/
theorem ofMillis?_eq_some_iff {ms : ℤ} {t : Timestamp} :
    ofMillis? ms = some t ↔ t.IsWhole ∧ t.millis = ms := by
  rw [ofMillis?, ofSeconds?_eq_some_iff, millis]
  constructor
  · rintro ⟨hsecond, hnano⟩
    exact ⟨⟨by omega, by omega⟩, by omega⟩
  · rintro ⟨⟨hlt, hmod⟩, hmillis⟩
    exact ⟨by omega, by omega⟩

/-- **Which counts have an instant**: those of the days in the calendar's years. -/
theorem exists_ofMillis?_iff {ms : ℤ} : (∃ t, ofMillis? ms = some t) ↔
    -262143 ≤ (Date.ofDays (ms / 86400000)).year ∧
      (Date.ofDays (ms / 86400000)).year ≤ 262142 := by
  rw [Date.year_ofDays_range_iff]
  constructor
  · rintro ⟨t, ht⟩
    obtain ⟨⟨hlt, -⟩, hmillis⟩ := ofMillis?_eq_some_iff.1 ht
    obtain ⟨hlow, hhigh⟩ := t.second_range
    rw [millis] at hmillis
    omega
  · intro h
    refine ⟨⟨ms / 1000, (ms % 1000).toNat * 1000000, by omega, by omega⟩, ?_⟩
    exact ofSeconds?_eq_some_iff.2 ⟨rfl, rfl⟩

/-- An instant of whole milliseconds is not changed by cutting. -/
theorem IsWhole.truncate {t : Timestamp} (h : t.IsWhole) : t.truncate = t := by
  rw [Timestamp.truncate, ofMillis?_eq_some_iff.2 ⟨h, rfl⟩]
  rfl

/-! ### The text of an instant -/

/-- The date of an instant in UTC. -/
def date (t : Timestamp) : Date :=
  Date.ofDays (t.second / 86400)

/-- The time of day of an instant in UTC. -/
def timeOfDay (t : Timestamp) : TimeOfDay :=
  let s := (t.second % 86400).toNat
  { hour := s / 3600
    minute := s / 60 % 60
    second := s % 60 + if 1000000000 ≤ t.nano then 1 else 0
    nano := t.nano % 1000000000 }

/-- The digits below the second with their point, and the zone. -/
def fractionText (t : Timestamp) : List Char :=
  '.' :: padded 3 (t.nano % 1000000000 / 1000000) ++ ['Z']

/-- The text of an instant is its date, its time of the day and its milliseconds. -/
theorem toList_isoText (t : Timestamp) :
    t.isoText.toList = t.date.text ++ 'T' :: (t.timeOfDay.text ++ t.fractionText) := by
  rw [isoText, String.toList_ofList, civilText]
  simp only [Date.text, TimeOfDay.text, date, timeOfDay, fractionText, List.append_assoc,
    List.cons_append, List.nil_append]

/-- The date of an instant is one of the calendar's. -/
theorem isValid_date (t : Timestamp) : t.date.isValid = true := by
  have hyear : -262143 ≤ t.date.year ∧ t.date.year ≤ 262142 := by
    obtain ⟨hlow, hhigh⟩ := t.second_range
    rw [date, Date.year_ofDays_range_iff]
    omega
  exact Date.isValid_iff.2 ⟨hyear.1, hyear.2, Date.isCivil_ofDays _⟩

/-- The time of the day of an instant is one of the clock. -/
theorem isValid_timeOfDay (t : Timestamp) : t.timeOfDay.isValid = true := by
  have hday : (t.second % 86400).toNat < 86400 := by omega
  rw [TimeOfDay.isValid, decide_eq_true_iff]
  simp only [timeOfDay]
  refine ⟨by omega, by omega, ?_, by omega⟩
  split_ifs <;> omega

variable {t : Timestamp}

/-- The day of an instant is that of its milliseconds. -/
theorem IsWhole.date_eq (h : t.IsWhole) : t.date = Date.ofDays (t.millis / 86400000) := by
  have hlt := h.nano_lt
  have hday : t.second / 86400 = t.millis / 86400000 := by
    rw [millis]
    omega
  rw [date, hday]

/-- Date and time of day make the instant again. -/
theorem IsWhole.ofCivil? (h : t.IsWhole) : ofCivil? t.date t.timeOfDay 0 = some t := by
  have hlt := h.nano_lt
  have hleap : ¬ (t.second % 86400).toNat % 60 = 60 := by omega
  rw [Timestamp.ofCivil?, ofSeconds?_eq_some_iff, date, Date.toDays_ofDays]
  simp only [timeOfDay, Nat.not_le.2 hlt, if_false, Nat.add_zero, hleap]
  omega

/-- The milliseconds of an instant are read back as its nanoseconds, if they are whole. -/
theorem IsWhole.reads_fractionText (h : t.IsWhole) :
    TimeScan.optionalFraction.Reads t.fractionText t.timeOfDay.nano ['Z'] := by
  have hlt := h.nano_lt
  have hmod := h.nano_mod
  have hlength : (padded 3 (t.nano % 1000000000 / 1000000)).length = 3 :=
    length_padded (by decide) (by omega)
  have hzone : ∀ c, ['Z'].head? = some c → isDigit c = false := by
    rintro c ⟨⟩
    decide
  have hreads := TimeScan.reads_optionalFraction
    (padded_ne_nil 3 (t.nano % 1000000000 / 1000000)) (fun _ hc => isDigit_of_mem_padded hc) hzone
  rw [List.take_of_length_le (by omega), hlength, ofDigits_padded] at hreads
  have hnano : t.nano % 1000000000 / 1000000 * 10 ^ (9 - 3) = t.timeOfDay.nano := by
    simp only [timeOfDay]
    omega
  rwa [hnano] at hreads

/-! ### Reading the text back -/

/-- A text has no fewer octets than characters. -/
theorem length_le_utf8ByteSize (cs : List Char) : cs.length ≤ (String.ofList cs).utf8ByteSize := by
  rw [String.utf8ByteSize_ofList]
  induction cs with
  | nil => exact Nat.zero_le _
  | cons c cs ih =>
    have hc := c.utf8Size_pos
    rw [String.utf8Len_cons, List.length_cons]
    omega

/-- A number is written in no less than its width. -/
theorem le_length_padded (w n : ℕ) : w ≤ (padded w n).length := by
  rw [padded, List.length_append, List.length_replicate]
  omega

/-- A year is written in no less than four characters. -/
theorem le_length_yearText (y : ℤ) : 4 ≤ (yearText y).length := by
  have hlength := le_length_padded 4 y.natAbs
  rw [yearText]
  split_ifs
  · exact hlength
  all_goals
    rw [List.length_cons]
    omega

/-- A date and a time of day are long enough for the strict form. -/
theorem le_utf8ByteSize_text (date : Date) (time : TimeOfDay) (rest : List Char) :
    19 ≤ (String.ofList (date.text ++ 'T' :: (time.text ++ rest))).utf8ByteSize := by
  refine le_trans ?_ (length_le_utf8ByteSize _)
  have hyear := le_length_yearText date.year
  have hmonth := le_length_padded 2 date.month
  have hday := le_length_padded 2 date.day
  have hhour := le_length_padded 2 time.hour
  have hminute := le_length_padded 2 time.minute
  have hsecond := le_length_padded 2 time.second
  simp only [Date.text, TimeOfDay.text, List.length_append, List.length_cons]
  omega

/-- The text of an instant is long enough for the strict form. -/
theorem le_utf8ByteSize_isoText (t : Timestamp) :
    19 ≤ (String.ofList t.isoText.toList).utf8ByteSize := by
  rw [toList_isoText]
  exact le_utf8ByteSize_text ..

/-- **The text of a year in four digits is read in the strict form.** -/
theorem IsWhole.readStrict (h : t.IsWhole) (hyear : 0 ≤ t.date.year ∧ t.date.year ≤ 9999) :
    readStrict t.isoText.toList = .ok t := by
  have hreads := TimeScan.reads_scanStrict hyear t.isValid_date t.isValid_timeOfDay
    h.reads_fractionText (TimeScan.reads_offset_utc _ []) (by decide) h.ofCivil?
  rw [← toList_isoText] at hreads
  exact hreads.readStrict_eq_ok t.le_utf8ByteSize_isoText

/-- **The text of a year with a sign is not in the strict form.** -/
theorem readStrict_of_sign (hyear : ¬ (0 ≤ t.date.year ∧ t.date.year ≤ 9999)) :
    readStrict t.isoText.toList = .error .invalid := by
  have hsign : ∃ c cs, digit? c = none ∧ t.isoText.toList = c :: cs := by
    rw [toList_isoText, Date.text, yearText, if_neg hyear]
    split_ifs
    · exact ⟨'-', _, by decide, rfl⟩
    · exact ⟨'+', _, by decide, rfl⟩
  obtain ⟨c, cs, hc, hcs⟩ := hsign
  have hrefuses := TimeScan.refuses_scanStrict hc cs
  rw [← hcs] at hrefuses
  exact hrefuses.readStrict_eq_error t.le_utf8ByteSize_isoText

/-- **No text is in a form without a zone.** -/
theorem IsWhole.readZoneless? (h : t.IsWhole) : readZoneless? t.isoText.toList = none := by
  obtain ⟨hlow, hhigh, hcivil⟩ := Date.isValid_iff.1 t.isValid_date
  have hyear : -2147483648 ≤ t.date.year ∧ t.date.year ≤ 2147483647 := by omega
  have hzoneless := TimeScan.refuses_scanZoneless hcivil hyear t.isValid_timeOfDay
    h.reads_fractionText
  have hmidnight := TimeScan.refuses_scanMidnight hcivil hyear (c := 'T')
    (t.timeOfDay.text ++ t.fractionText)
  rw [← toList_isoText] at hzoneless hmidnight
  rw [Timestamp.readZoneless?, hzoneless.scan?_eq_none, hmidnight.scan?_eq_none]
  rfl

/-- The text begins with a digit or a sign. -/
theorem exists_isoText_eq_cons (t : Timestamp) :
    ∃ c cs, Text.isBlankChar c = false ∧ t.isoText.toList = c :: cs := by
  obtain ⟨c, cs, hc, hcs⟩ := exists_padded_eq_cons 4 t.date.year.natAbs
  rw [toList_isoText, Date.text, yearText, hcs]
  split_ifs
  · exact ⟨c, _, isBlankChar_of_isDigit hc, rfl⟩
  · exact ⟨'-', _, by decide, rfl⟩
  · exact ⟨'+', _, by decide, rfl⟩

/-- The text ends with the zone. -/
theorem exists_isoText_eq_concat (t : Timestamp) : ∃ cs, t.isoText.toList = cs ++ ['Z'] :=
  ⟨_, String.toList_ofList⟩

/-- There is no white space around the text. -/
theorem trimChars_isoText (t : Timestamp) : Text.trimChars t.isoText.toList = t.isoText.toList := by
  have hstart : Text.trimStart t.isoText.toList = t.isoText.toList := by
    obtain ⟨c, cs, hc, hcs⟩ := t.exists_isoText_eq_cons
    rw [hcs, Text.trimStart, List.dropWhile_cons_of_neg (by simp [hc])]
  have hend : Text.trimEnd t.isoText.toList = t.isoText.toList := by
    obtain ⟨cs, hcs⟩ := t.exists_isoText_eq_concat
    rw [hcs, Text.trimEnd, List.reverse_append, List.reverse_singleton, List.singleton_append,
      List.dropWhile_cons_of_neg (by decide), List.reverse_cons, List.reverse_reverse]
  rw [Text.trimChars, hstart, hend]

/-- **The text of an instant is read back to it**, if its year has four digits; a year with a sign
is refused. -/
theorem IsWhole.parse_isoText (h : t.IsWhole) :
    parse t.isoText = if 0 ≤ t.date.year ∧ t.date.year ≤ 9999 then .ok t else .error .invalid := by
  rw [parse, trimChars_isoText]
  split_ifs with hyear
  · rw [h.readStrict hyear]
    exact congrArg _ h.truncate
  · rw [readStrict_of_sign hyear, h.readZoneless?]

/-- **Counts of milliseconds, instants and texts.**  A count has an instant when its day has a date
in the calendar's years, and the instant gives the count back.  The text of the instant is read
back to the instant when the year of this date is from `0` to `9999`, and is otherwise refused. -/
theorem ofMillis?_parse_isoText (ms : Int64) :
    ∃ d : Date, (∀ d' : Date, d'.IsCivil ∧ d'.toDays = ms.toInt / 86400000 ↔ d' = d) ∧
      if -262143 ≤ d.year ∧ d.year ≤ 262142 then
        ∃ t, ofMillis? ms.toInt = some t ∧ t.epochMillis = ms ∧
          parse t.isoText = if 0 ≤ d.year ∧ d.year ≤ 9999 then .ok t else .error .invalid
      else ofMillis? ms.toInt = none := by
  refine ⟨Date.ofDays (ms.toInt / 86400000), fun d => Date.eq_ofDays_iff.symm, ?_⟩
  by_cases hrange : -262143 ≤ (Date.ofDays (ms.toInt / 86400000)).year ∧
      (Date.ofDays (ms.toInt / 86400000)).year ≤ 262142
  · rw [if_pos hrange]
    obtain ⟨t, ht⟩ := exists_ofMillis?_iff.2 hrange
    obtain ⟨hwhole, hmillis⟩ := ofMillis?_eq_some_iff.1 ht
    have hepoch : t.epochMillis = ms := Int64.toInt_inj.1 (t.toInt_epochMillis.trans hmillis)
    refine ⟨t, ht, hepoch, ?_⟩
    rw [hwhole.parse_isoText, hwhole.date_eq, hmillis]
  · rw [if_neg hrange]
    exact Option.eq_none_iff_forall_ne_some.2 fun t ht => hrange (exists_ofMillis?_iff.1 ⟨t, ht⟩)

-- the first instant whose year has a sign
example : (ofMillis? 253402300800000).map (fun t => (t.isoText, (parse t.isoText).toOption)) =
    some ("+10000-01-01T00:00:00.000Z", none) := by decide +kernel

end Timestamp
end CourtDocket
