/-
# The forms of a time lie on one axis

A civil time (`CivilTime`) is a date, a time of day and any number of digits below the second; it
has a count of milliseconds, by the days of the calendar and the first three digits
(`CivilTime.millis`).  It is published in several forms, and each of them is read as an instant of
whole milliseconds (`parse_forms`), whatever white space is around it:

| form | read by | count of milliseconds |
| --- | --- | --- |
| `Z` at the end | the strict reader | that of the civil time |
| an offset at the end | the strict reader | that of the civil time, less the offset |
| nothing at the end | the reader without a zone, the strict one refusing | that of the civil time |
| the date alone | the reader of dates, both others refusing | that of midnight |
-/

import CourtDocket.Proofs.Time.DayCount
import CourtDocket.Proofs.Time.Precision

namespace CourtDocket

open Number

/-- White space around a text without white space is trimmed away. -/
theorem Text.trimChars_append {before cs after : List Char}
    (hbefore : ∀ c ∈ before, isBlankChar c = true) (hcs : ∀ c ∈ cs, isBlankChar c = false)
    (hafter : ∀ c ∈ after, isBlankChar c = true) : trimChars (before ++ cs ++ after) = cs := by
  cases cs with
  | nil =>
    have hall : ∀ c ∈ before ++ after, isBlankChar c = true := fun c hc =>
      (List.mem_append.1 hc).elim (hbefore c) (hafter c)
    have hstart : (before ++ after ++ []).dropWhile isBlankChar = [] :=
      dropWhile_append_of_head? hall (by simp)
    rw [trimChars, trimStart, List.append_nil, ← List.append_nil (before ++ after), hstart]
    rfl
  | cons d cs =>
    have hstart : trimStart (before ++ (d :: cs ++ after)) = d :: cs ++ after :=
      dropWhile_append_of_head? hbefore fun c hc =>
        Option.some.inj hc ▸ hcs d (List.mem_cons_self ..)
    have hend : (after.reverse ++ (d :: cs).reverse).dropWhile isBlankChar = (d :: cs).reverse :=
      dropWhile_append_of_head? (fun c hc => hafter c (List.mem_reverse.1 hc)) fun c hc =>
        hcs c (List.mem_reverse.1 (List.mem_of_mem_head? hc))
    rw [trimChars, List.append_assoc, hstart, trimEnd, List.reverse_append, hend,
      List.reverse_reverse]

/-! ### Digits below the second -/

namespace Number

variable {ds : List Char}

/-- The first digits of a number that is filled up with zeros. -/
theorem take_append_zeros (ds : List Char) {n k : ℕ} (h : n ≤ k) :
    (ds ++ List.replicate k '0').take n =
      ds.take n ++ List.replicate (n - (ds.take n).length) '0' := by
  rw [List.take_append, List.take_replicate, List.length_take]
  congr 2
  omega

/-- Zeros at the end of a number count for ten each. -/
theorem ofDigits_append_zeros (ds : List Char) (k : ℕ) :
    ofDigits (ds ++ List.replicate k '0') = ofDigits ds * 10 ^ k := by
  have hzeros := ofDigits_zeros_append k []
  rw [List.append_nil] at hzeros
  rw [ofDigits_append, hzeros, List.length_replicate]
  rfl

/-- Zeros behind digits leave them digits. -/
theorem isDigit_of_mem_append_zeros (hds : ∀ c ∈ ds, isDigit c = true) {k : ℕ} {c : Char}
    (hc : c ∈ ds ++ List.replicate k '0') : isDigit c = true :=
  (List.mem_append.1 hc).elim (hds c) isDigit_of_mem_zeros

/-- The nanoseconds that nine digits below the second give. -/
def nanosOfFraction (ds : List Char) : ℕ :=
  ofDigits (ds.take 9) * 10 ^ (9 - (ds.take 9).length)

/-- The milliseconds that three digits below the second give, zeros standing for those that are
not there. -/
def millisOfFraction (ds : List Char) : ℕ :=
  ofDigits ((ds ++ List.replicate 3 '0').take 3)

/-- The nanoseconds of a fraction are its first nine digits, zeros standing for those that it
lacks. -/
theorem nanosOfFraction_eq (ds : List Char) :
    nanosOfFraction ds = ofDigits ((ds ++ List.replicate 9 '0').take 9) := by
  rw [nanosOfFraction, take_append_zeros ds le_rfl, ofDigits_append_zeros]

/-- A fraction is less than a second. -/
theorem nanosOfFraction_lt (hds : ∀ c ∈ ds, isDigit c = true) :
    nanosOfFraction ds < 1000000000 := by
  have hdigits : ∀ c ∈ (ds ++ List.replicate 9 '0').take 9, isDigit c = true := fun c hc =>
    isDigit_of_mem_append_zeros hds (List.mem_of_mem_take hc)
  have hlt := ofDigits_lt hdigits
  rw [nanosOfFraction_eq]
  exact hlt.trans_le (Nat.pow_le_pow_right (by decide) (List.length_take_le ..))

/-- **Cutting the nanoseconds to milliseconds** leaves the first three digits. -/
theorem nanosOfFraction_div (hds : ∀ c ∈ ds, isDigit c = true) :
    nanosOfFraction ds / 1000000 = millisOfFraction ds := by
  -- nine digits are three and six
  have hthree : (ds ++ List.replicate 3 '0').take 3 =
      ((ds ++ List.replicate 9 '0').take 9).take 3 := by
    rw [List.take_take, take_append_zeros ds le_rfl, take_append_zeros ds (by decide)]
    rfl
  have hsplit : (ds ++ List.replicate 9 '0').take 9 =
      (ds ++ List.replicate 3 '0').take 3 ++ ((ds ++ List.replicate 9 '0').take 9).drop 3 := by
    rw [hthree, List.take_append_drop]
  have hlength : (((ds ++ List.replicate 9 '0').take 9).drop 3).length = 6 := by
    rw [List.length_drop, List.length_take, List.length_append, List.length_replicate]
    omega
  have hdigits : ∀ c ∈ ((ds ++ List.replicate 9 '0').take 9).drop 3, isDigit c = true :=
    fun c hc => isDigit_of_mem_append_zeros hds (List.mem_of_mem_take (List.mem_of_mem_drop hc))
  have htail := ofDigits_lt hdigits
  rw [nanosOfFraction_eq, hsplit, ofDigits_append, hlength, millisOfFraction]
  rw [hlength] at htail
  omega

end Number

namespace Timestamp

/-! ### Civil times and offsets -/

/-- **A civil time**: a date with a year of four digits, a time of day and the digits below the
second. -/
structure CivilTime where
  /-- The date. -/
  date : Date
  /-- The hour, from zero. -/
  hour : ℕ
  /-- The minute, from zero. -/
  minute : ℕ
  /-- The second, from zero. -/
  second : ℕ
  /-- The digits below the second, none if they are left out. -/
  fraction : List Char
  /-- The year has four digits. -/
  year_range : 0 ≤ date.year ∧ date.year ≤ 9999
  /-- The calendar has the date. -/
  isCivil : date.IsCivil
  /-- A day has twenty-four hours. -/
  hour_lt : hour < 24
  /-- An hour has sixty minutes. -/
  minute_lt : minute < 60
  /-- A minute has sixty seconds. -/
  second_lt : second < 60
  /-- Below the second there are digits only. -/
  isDigit_of_mem : ∀ c ∈ fraction, isDigit c = true

/-- **An offset from UTC**: a sign, hours and minutes. -/
structure ZoneOffset where
  /-- A plus east of UTC, a hyphen or a minus sign west of it. -/
  sign : Char
  /-- The hours. -/
  hours : ℕ
  /-- The minutes. -/
  minutes : ℕ
  /-- The sign is one of the three. -/
  sign_mem : sign = '+' ∨ sign = '-' ∨ sign = '−'
  /-- The hours are less than a day. -/
  hours_le : hours ≤ 23
  /-- The minutes are less than an hour. -/
  minutes_le : minutes ≤ 59

namespace CivilTime

variable (c : CivilTime)

/-- The milliseconds of the time since 1970-01-01T00:00:00 in the same zone. -/
def millis : ℤ :=
  ((c.date.dayCount - (Date.dayCount ⟨1970, 1, 1⟩ : ℤ)) * 86400 + c.hour * 3600 + c.minute * 60 +
    c.second) * 1000 + millisOfFraction c.fraction

/-- The time of day. -/
def timeOfDay : TimeOfDay :=
  ⟨c.hour, c.minute, c.second, nanosOfFraction c.fraction⟩

/-- The digits below the second with their point, if there are any. -/
def fractionText : List Char :=
  if c.fraction = [] then [] else '.' :: c.fraction

/-- The text of the time without a zone. -/
def text : List Char :=
  c.date.text ++ 'T' :: (c.timeOfDay.text ++ c.fractionText)

/-- The midnight at which the day of the time begins. -/
def midnight : CivilTime :=
  { c with
    hour := 0, minute := 0, second := 0, fraction := []
    hour_lt := by decide, minute_lt := by decide, second_lt := by decide
    isDigit_of_mem := by simp }

/-- The date of the time is one of the calendar. -/
theorem isValid_date : c.date.isValid = true := by
  obtain ⟨hlow, hhigh⟩ := c.year_range
  exact Date.isValid_iff.2 ⟨by omega, by omega, c.isCivil⟩

/-- The time of the day is one of the clock: it counts no leap second. -/
theorem isValid_timeOfDay : c.timeOfDay.isValid = true := by
  have hnano := nanosOfFraction_lt c.isDigit_of_mem
  have hsecond := c.second_lt
  rw [TimeOfDay.isValid, decide_eq_true_iff]
  exact ⟨c.hour_lt, c.minute_lt, hsecond.le, hnano⟩

/-- The digits below the second are read up to what follows them. -/
theorem reads_fractionText {rest : List Char}
    (hrest : ∀ d, rest.head? = some d → isDigit d = false ∧ d ≠ '.') :
    TimeScan.optionalFraction.Reads (c.fractionText ++ rest) c.timeOfDay.nano rest := by
  rw [fractionText, timeOfDay]
  split_ifs with hnone
  · rw [hnone]
    cases rest with
    | nil => rfl
    | cons d rest =>
      have hpoint := (hrest d rfl).2
      simp only [TimeScan.optionalFraction]
      refine (TimeScan.reads_left _).bind ?_
      split
      · next heq => exact absurd (List.cons.inj heq).1 hpoint
      · exact TimeScan.reads_pure ..
  · exact TimeScan.reads_optionalFraction hnone c.isDigit_of_mem fun d hd => (hrest d hd).1

/-- The civil time at an offset in seconds is an instant, whose milliseconds are those of the time
less the offset. -/
theorem exists_ofCivil? {off : ℤ} (hoff : -86400 < off ∧ off < 86400) :
    ∃ t : Timestamp, ofCivil? c.date c.timeOfDay off = some t ∧
      ofMillis? (c.millis - off * 1000) = some t.truncate := by
  obtain ⟨hyear₀, hyear₁⟩ := c.year_range
  obtain ⟨hbegin, hend⟩ := Date.toDays_lt_january c.isCivil
  rw [Date.toDays_january] at hbegin hend
  have hhour := c.hour_lt
  have hminute := c.minute_lt
  have hsecond := c.second_lt
  have hleap : ¬ c.second = 60 := by omega
  have hnano := nanosOfFraction_lt c.isDigit_of_mem
  let t : Timestamp :=
    { second := c.date.toDays * 86400 + c.hour * 3600 + c.minute * 60 + c.second - off
      nano := nanosOfFraction c.fraction
      second_range := by omega
      nano_lt := by omega }
  have hcivil : ofCivil? c.date c.timeOfDay off = some t := by
    simp only [ofCivil?, ofSeconds?_eq_some_iff, timeOfDay, hleap, if_false, Nat.add_zero]
    exact ⟨rfl, rfl⟩
  have hmillis : t.millis = c.millis - off * 1000 := by
    rw [Timestamp.millis, nanosOfFraction_div c.isDigit_of_mem, millis,
      ← Date.toDays_eq_dayCount hyear₀ c.isCivil]
    ring
  refine ⟨t, hcivil, ?_⟩
  rw [← hmillis]
  -- only the milliseconds of the last leap second of the range make no instant
  cases hwhole : ofMillis? t.millis with
  | none =>
    have hlast := (ofMillis?_millis_eq_none_iff.1 hwhole).2
    exact absurd hlast (Nat.not_le.2 hnano)
  | some u =>
    rw [truncate, hwhole]
    rfl

/-- The civil time in UTC. -/
theorem exists_ofCivil?_utc :
    ∃ t : Timestamp, ofCivil? c.date c.timeOfDay 0 = some t ∧
      ofMillis? c.millis = some t.truncate := by
  have hutc : -86400 < (0 : ℤ) ∧ (0 : ℤ) < 86400 := by decide
  obtain ⟨t, hcivil, hmillis⟩ := c.exists_ofCivil? hutc
  rw [Int.zero_mul, Int.sub_zero] at hmillis
  exact ⟨t, hcivil, hmillis⟩

end CivilTime

namespace ZoneOffset

variable (z : ZoneOffset)

/-- The seconds east of UTC. -/
def seconds : ℤ :=
  if z.sign = '+' then z.hours * 3600 + z.minutes * 60 else -(z.hours * 3600 + z.minutes * 60)

/-- The text of the offset. -/
def text : List Char :=
  z.sign :: (padded 2 z.hours ++ ':' :: padded 2 z.minutes)

/-- An offset is less than a day. -/
theorem seconds_range : -86400 < z.seconds ∧ z.seconds < 86400 := by
  have hhours := z.hours_le
  have hminutes := z.minutes_le
  rw [seconds]
  split_ifs <;> omega

/-- An offset is read to its seconds. -/
theorem reads_text : (TimeScan.offset (TimeScan.literal ':')).Reads z.text z.seconds [] := by
  obtain ⟨sign, hours, minutes, hsign, hhours, hminutes⟩ := z
  have hutc : ¬ (sign = 'Z' ∨ sign = 'z') := by rcases hsign with rfl | rfl | rfl <;> decide
  have hpairs : (TimeScan.offsetPair true).Reads (padded 2 minutes) minutes [] := by
    rw [← List.append_nil (padded 2 minutes)]
    exact TimeScan.reads_offsetPair (by omega) (fun _ => by omega) []
  simp only [TimeScan.offset, text, seconds]
  refine (TimeScan.reads_left _).bind ?_
  simp only [hutc, hsign, if_false, if_true]
  refine (TimeScan.reads_set ..).bind ?_
  refine (TimeScan.reads_offsetPair (by omega) (by simp) _).bind ?_
  refine (TimeScan.reads_literal ..).bind (hpairs.bind ?_)
  exact TimeScan.reads_pure ..

end ZoneOffset

/-! ### Reading the forms -/

/-- **A text is read as the instant of a count of milliseconds.** -/
def ReadsAsMillis (cs : List Char) (ms : ℤ) : Prop :=
  ∃ t, parse (String.ofList cs) = .ok t ∧ ofMillis? ms = some t ∧ t.epochMillis.toInt = ms

/-- No character of a number is blank. -/
theorem isBlankChar_of_mem_padded (w n : ℕ) : ∀ c ∈ padded w n, Text.isBlankChar c = false :=
  fun _ hc => isBlankChar_of_isDigit (isDigit_of_mem_padded hc)

/-- No character of an offset is blank. -/
theorem ZoneOffset.isBlankChar_of_mem_text (z : ZoneOffset) :
    ∀ c ∈ z.text, Text.isBlankChar c = false := by
  have hsign : Text.isBlankChar z.sign = false := by
    rcases z.sign_mem with h | h | h <;> rw [h] <;> decide
  simp only [ZoneOffset.text, List.forall_mem_append, List.forall_mem_cons]
  exact ⟨hsign, isBlankChar_of_mem_padded _ _, by decide, isBlankChar_of_mem_padded _ _⟩

namespace CivilTime

variable (c : CivilTime)

/-- No character of the date is blank. -/
theorem isBlankChar_of_mem_date : ∀ d ∈ c.date.text, Text.isBlankChar d = false := by
  rw [Date.text, yearText, if_pos c.year_range]
  simp only [List.forall_mem_append, List.forall_mem_cons]
  exact ⟨isBlankChar_of_mem_padded _ _, by decide, isBlankChar_of_mem_padded _ _, by decide,
    isBlankChar_of_mem_padded _ _⟩

/-- No character of the text is blank, so that nothing of it is trimmed. -/
theorem isBlankChar_of_mem_text : ∀ d ∈ c.text, Text.isBlankChar d = false := by
  have hfraction : ∀ d ∈ c.fractionText, Text.isBlankChar d = false := by
    rw [fractionText]
    split_ifs
    · simp
    · rw [List.forall_mem_cons]
      exact ⟨by decide, fun d hd => isBlankChar_of_isDigit (c.isDigit_of_mem d hd)⟩
  simp only [text, TimeOfDay.text, List.forall_mem_append, List.forall_mem_cons]
  exact ⟨c.isBlankChar_of_mem_date, by decide, ⟨isBlankChar_of_mem_padded _ _, by decide,
    isBlankChar_of_mem_padded _ _, by decide, isBlankChar_of_mem_padded _ _⟩, hfraction⟩

/-- The midnight has the first time of the day. -/
theorem midnight_timeOfDay : c.midnight.timeOfDay = .midnight := by
  have hnano : nanosOfFraction [] = 0 := by decide
  rw [timeOfDay, TimeOfDay.midnight]
  exact congrArg _ hnano

/-- The text of the midnight in the universal time is the date and the first time of the day. -/
theorem midnight_text_utc :
    c.midnight.text ++ ['Z'] = c.date.text ++ "T00:00:00Z".toList := by
  have hclock : 'T' :: (TimeOfDay.midnight.text ++ ['Z']) = "T00:00:00Z".toList := by
    decide +kernel
  have hfraction : c.midnight.fractionText = [] := by
    rw [fractionText]
    exact if_pos rfl
  rw [text, midnight_timeOfDay, hfraction, List.append_nil, List.append_assoc, List.cons_append,
    hclock]
  rfl

/-- With a zone the time is read in the strict form. -/
theorem readStrict_append {zone : List Char} {off : ℤ}
    (hoffset : (TimeScan.offset (TimeScan.literal ':')).Reads zone off [])
    (hzone : ∀ d, zone.head? = some d → isDigit d = false ∧ d ≠ '.')
    (hoff : -86400 < off ∧ off < 86400) :
    ∃ t : Timestamp, readStrict (c.text ++ zone) = .ok t ∧
      ofMillis? (c.millis - off * 1000) = some t.truncate := by
  obtain ⟨t, hcivil, hmillis⟩ := c.exists_ofCivil? hoff
  have hreads := TimeScan.reads_scanStrict c.year_range c.isValid_date c.isValid_timeOfDay
    (c.reads_fractionText hzone) hoffset hoff hcivil
  have htext : c.text ++ zone =
      c.date.text ++ 'T' :: (c.timeOfDay.text ++ (c.fractionText ++ zone)) := by
    simp only [text, List.append_assoc, List.cons_append]
  rw [htext]
  exact ⟨t, hreads.readStrict_eq_ok (le_utf8ByteSize_text ..), hmillis⟩

end CivilTime

/-- What the scan of the strict form refuses is refused, with the fault of the scan or as too
short. -/
theorem exists_readStrict_error {cs : List Char} {fault : TimeFault}
    (h : scanStrict.Refuses cs fault) : ∃ fault, readStrict cs = .error fault := by
  rw [TimeScan.Refuses] at h
  rw [readStrict, h]
  split_ifs
  · exact ⟨_, rfl⟩
  · exact ⟨_, rfl⟩

/-- A text is read in the strict form where that reads it, and cut to milliseconds. -/
theorem parse_of_readStrict {s : String} {cs : List Char} {t : Timestamp}
    (htrim : Text.trimChars s.toList = cs) (h : readStrict cs = .ok t) :
    parse s = .ok t.truncate := by
  rw [parse, htrim, h]

/-- A text is read in a form without a zone where the strict form refuses it, and cut to
milliseconds. -/
theorem parse_of_readZoneless? {s : String} {cs : List Char} {t : Timestamp} {fault : TimeFault}
    (htrim : Text.trimChars s.toList = cs) (hstrict : readStrict cs = .error fault)
    (h : readZoneless? cs = some t) : parse s = .ok t.truncate := by
  rw [parse, htrim, hstrict, h]

/-- A text that is read as the instant of a count of milliseconds has that count. -/
theorem readsAsMillis_of_parse {cs : List Char} {ms : ℤ} {t : Timestamp}
    (h : parse (String.ofList cs) = .ok t) (hms : ofMillis? ms = some t) : ReadsAsMillis cs ms := by
  refine ⟨t, h, hms, ?_⟩
  rw [toInt_epochMillis]
  exact (ofMillis?_eq_some_iff.1 hms).2

section Forms

variable (c : CivilTime) {before after : List Char}
  (hbefore : ∀ d ∈ before, Text.isBlankChar d = true)
  (hafter : ∀ d ∈ after, Text.isBlankChar d = true)

include hbefore hafter

/-- A time with a zone. -/
theorem readsAsMillis_zone {zone : List Char} {off : ℤ}
    (hoffset : (TimeScan.offset (TimeScan.literal ':')).Reads zone off [])
    (hzone : ∀ d, zone.head? = some d → isDigit d = false ∧ d ≠ '.')
    (hblank : ∀ d ∈ zone, Text.isBlankChar d = false) (hoff : -86400 < off ∧ off < 86400) :
    ReadsAsMillis (before ++ (c.text ++ zone) ++ after) (c.millis - off * 1000) := by
  obtain ⟨t, hstrict, hmillis⟩ := c.readStrict_append hoffset hzone hoff
  refine readsAsMillis_of_parse (parse_of_readStrict ?_ hstrict) hmillis
  rw [String.toList_ofList]
  exact Text.trimChars_append hbefore
    (List.forall_mem_append.2 ⟨c.isBlankChar_of_mem_text, hblank⟩) hafter

/-- A time without a zone. -/
theorem readsAsMillis_text : ReadsAsMillis (before ++ c.text ++ after) c.millis := by
  obtain ⟨t, hcivil, hmillis⟩ := c.exists_ofCivil?_utc
  have htail : TimeScan.optionalFraction.Reads c.fractionText c.timeOfDay.nano [] := by
    rw [← List.append_nil c.fractionText]
    exact c.reads_fractionText (by simp)
  obtain ⟨fault, hstrict⟩ := exists_readStrict_error
    (TimeScan.refuses_scanStrict_zoneless c.year_range c.isValid_date c.isValid_timeOfDay htail)
  have hreads := TimeScan.reads_scanZoneless c.isValid_date c.isValid_timeOfDay htail hcivil
  have hzoneless : readZoneless? c.text = some t := by
    rw [readZoneless?, CivilTime.text, hreads.scan?_eq_some]
    rfl
  refine readsAsMillis_of_parse (parse_of_readZoneless? ?_ hstrict hzoneless) hmillis
  rw [String.toList_ofList]
  exact Text.trimChars_append hbefore c.isBlankChar_of_mem_text hafter

/-- A date alone. -/
theorem readsAsMillis_date : ReadsAsMillis (before ++ c.date.text ++ after) c.midnight.millis := by
  obtain ⟨t, hcivil, hmillis⟩ := c.midnight.exists_ofCivil?_utc
  rw [CivilTime.midnight_timeOfDay] at hcivil
  obtain ⟨fault, hstrict⟩ := exists_readStrict_error
    (TimeScan.refuses_scanStrict_date c.year_range c.isValid_date)
  have hrefuses := TimeScan.refuses_scanZoneless_date c.isValid_date
  have hreads := TimeScan.reads_scanMidnight c.isValid_date hcivil
  have hzoneless : readZoneless? c.date.text = some t := by
    rw [readZoneless?, hrefuses.scan?_eq_none, hreads.scan?_eq_some]
    rfl
  refine readsAsMillis_of_parse (parse_of_readZoneless? ?_ hstrict hzoneless) hmillis
  rw [String.toList_ofList]
  exact Text.trimChars_append hbefore c.isBlankChar_of_mem_date hafter

/-- **All forms of a time lie on one axis.**  With `Z` and without a zone a civil time is read as
its count of milliseconds, with an offset as that count less the offset, and a date alone as its
midnight with `Z`, whatever white space is around them. -/
theorem parse_forms :
    (∀ cs ∈ [c.text ++ ['Z'], c.text], ReadsAsMillis (before ++ cs ++ after) c.millis) ∧
    (∀ z : ZoneOffset, ReadsAsMillis (before ++ (c.text ++ z.text) ++ after)
      (c.millis - z.seconds * 1000)) ∧
    ∀ cs ∈ [c.date.text ++ "T00:00:00Z".toList, c.date.text],
      ReadsAsMillis (before ++ cs ++ after) c.midnight.millis := by
  have hutc : ∀ d : CivilTime, ReadsAsMillis (before ++ (d.text ++ ['Z']) ++ after) d.millis := by
    intro d
    have hreads := readsAsMillis_zone d hbefore hafter (TimeScan.reads_offset_utc _ [])
      (by rintro e ⟨⟩; decide) (List.forall_mem_singleton.2 (by decide)) (by decide)
    rwa [Int.zero_mul, Int.sub_zero] at hreads
  refine ⟨?_, fun z => ?_, ?_⟩
  · simp only [List.forall_mem_cons]
    exact ⟨hutc c, readsAsMillis_text c hbefore hafter, by simp⟩
  · refine readsAsMillis_zone c hbefore hafter z.reads_text ?_ z.isBlankChar_of_mem_text
      z.seconds_range
    rintro d ⟨⟩
    rcases z.sign_mem with h | h | h <;> rw [h] <;> decide
  · have hmidnight := hutc c.midnight
    rw [CivilTime.midnight_text_utc] at hmidnight
    simp only [List.forall_mem_cons]
    exact ⟨hmidnight, readsAsMillis_date c hbefore hafter, by simp⟩

end Forms

/-- The last second of the leap day of year zero, with more digits than are kept. -/
def leapDayEnd : CivilTime where
  date := ⟨0, 2, 29⟩
  hour := 23
  minute := 59
  second := 59
  fraction := "9999".toList
  year_range := by decide
  isCivil := ⟨by decide, by decide, by decide, by decide⟩
  hour_lt := by decide
  minute_lt := by decide
  second_lt := by decide
  isDigit_of_mem := List.all_eq_true.1 (by decide)

/-- The offset furthest to the west. -/
def farWest : ZoneOffset where
  sign := '-'
  hours := 23
  minutes := 59
  sign_mem := .inr (.inl rfl)
  hours_le := by decide
  minutes_le := by decide

/-- The last second of a leap day of the year zero is read with the most western offset, with more
digits than milliseconds and with white space of any kind around it. -/
theorem parse_forms_leapDayEnd :
    ((∀ d ∈ "\u3000 ".toList, Text.isBlankChar d = true) ∧
      ∀ d ∈ "\n".toList, Text.isBlankChar d = true) ∧
    "\u3000 ".toList ++ (leapDayEnd.text ++ farWest.text) ++ "\n".toList =
      "\u3000 0000-02-29T23:59:59.9999-23:59\n".toList ∧
    leapDayEnd.millis = -62162035200001 ∧ farWest.seconds = -86340 ∧
    ReadsAsMillis ("\u3000 ".toList ++ (leapDayEnd.text ++ farWest.text) ++ "\n".toList)
      (leapDayEnd.millis - farWest.seconds * 1000) ∧
    ReadsAsMillis ("\u3000 ".toList ++ leapDayEnd.date.text ++ "\n".toList)
      leapDayEnd.midnight.millis := by
  have hbefore : ∀ d ∈ "\u3000 ".toList, Text.isBlankChar d = true :=
    List.all_eq_true.1 (by decide)
  have hafter : ∀ d ∈ "\n".toList, Text.isBlankChar d = true := List.all_eq_true.1 (by decide)
  obtain ⟨-, hzone, hdate⟩ := parse_forms leapDayEnd hbefore hafter
  refine ⟨⟨hbefore, hafter⟩, by decide +kernel, ?_, by decide, hzone farWest,
    hdate _ (List.mem_cons_of_mem _ (List.mem_cons_self ..))⟩
  rw [CivilTime.millis, ← Date.toDays_eq_dayCount leapDayEnd.year_range.1 leapDayEnd.isCivil]
  decide +kernel

end Timestamp
end CourtDocket
