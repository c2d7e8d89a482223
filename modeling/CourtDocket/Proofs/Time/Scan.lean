/-
# What the steps of a time reader read

A reader of times is a chain of steps, each of which looks at the start of what is left.  Of each
step it is said which text it reads and what it makes of it (`TimeScan.Reads`), or that it refuses
what is left (`TimeScan.Refuses`); both go through a chain step by step (`Reads.bind`,
`Reads.bind_refuses`).

A number is written in at least as many digits as its place is wide (`Timestamp.padded`).  A step
that reads a fixed width gets it back, and so does one that reads up to some width, as long as no
digit follows (`reads_number_padded`).
-/

import CourtDocket.Proofs.Number.Decimal
import CourtDocket.Proofs.Time.Calendar
import CourtDocket.Time.Spelling
import Mathlib.Data.List.Basic

namespace CourtDocket

open Number

/-! ### Numbers in a fixed width -/

namespace Timestamp

/-- A number that fits its width is written in that width. -/
theorem length_padded {w n : ℕ} (hw : 0 < w) (hn : n < 10 ^ w) : (padded w n).length = w := by
  have hlength := Nat.toDigits_length 10 n w hw hn
  rw [padded, List.length_append, List.length_replicate, FloatLayout.decimalDigits]
  omega

/-- What a number is written with are digits. -/
theorem isDigit_of_mem_padded {w n : ℕ} {c : Char} (h : c ∈ padded w n) : isDigit c = true :=
  (List.mem_append.1 h).elim isDigit_of_mem_zeros isDigit_of_mem_decimalDigits

/-- A number is written with a digit at least. -/
theorem padded_ne_nil (w n : ℕ) : padded w n ≠ [] :=
  List.append_ne_nil_of_right_ne_nil _ (decimalDigits_ne_nil n)

/-- What a number is written with starts with a digit. -/
theorem exists_padded_eq_cons (w n : ℕ) : ∃ c cs, isDigit c = true ∧ padded w n = c :: cs := by
  obtain ⟨c, cs, hcs⟩ := List.exists_cons_of_ne_nil (padded_ne_nil w n)
  exact ⟨c, cs, isDigit_of_mem_padded (by rw [hcs]; exact List.mem_cons_self ..), hcs⟩

/-- **A padded number is the number.** -/
theorem ofDigits_padded (w n : ℕ) : ofDigits (padded w n) = n := by
  rw [padded, ofDigits_zeros_append, ofDigits_decimalDigits]

end Timestamp

/-- What has a property is dropped up to the first character that does not have it. -/
theorem dropWhile_append_of_head? {p : Char → Bool} {cs rest : List Char}
    (hcs : ∀ c ∈ cs, p c = true) (hrest : ∀ c, rest.head? = some c → p c = false) :
    (cs ++ rest).dropWhile p = rest := by
  rw [List.dropWhile_append_of_pos hcs]
  cases rest with
  | nil => rfl
  | cons c rest => rw [List.dropWhile_cons_of_neg (by simp [hrest c rfl])]

/-- A digit is not blank. -/
theorem isBlankChar_of_isDigit {c : Char} (h : isDigit c = true) : Text.isBlankChar c = false := by
  have hcode : '0'.toNat = 48 ∧ '9'.toNat = 57 := by decide
  rw [isDigit_eq, Char.isDigit_iff_toNat] at h
  simp [Text.isBlankChar, Text.inRanges, Text.blankRanges]
  omega

/-! ### The text of a date and of a time of day -/

/-- The text of a date. -/
def Date.text (d : Date) : List Char :=
  Timestamp.yearText d.year ++ '-' :: (Timestamp.padded 2 d.month ++ '-' ::
    Timestamp.padded 2 d.day)

/-- No month has more than 31 days. -/
theorem Date.daysInMonth_le (year : ℤ) (month : ℕ) : daysInMonth year month ≤ 31 := by
  rw [daysInMonth]
  split_ifs <;> decide

/-- The text of a time of day up to its seconds. -/
def TimeOfDay.text (t : TimeOfDay) : List Char :=
  Timestamp.padded 2 t.hour ++ ':' :: (Timestamp.padded 2 t.minute ++ ':' ::
    Timestamp.padded 2 t.second)

namespace TimeScan

open Timestamp

variable {α β : Type} {s : TimeScan α} {f : α → TimeScan β} {cs mid rest ds : List Char} {a : α}
  {b : β} {fault : TimeFault}

/-- **A step reads a value at the start of a text** and leaves the rest. -/
def Reads (s : TimeScan α) (cs : List Char) (a : α) (rest : List Char) : Prop :=
  s.run cs = .ok (a, rest)

/-- **A step refuses a text**. -/
def Refuses (s : TimeScan α) (cs : List Char) (fault : TimeFault) : Prop :=
  s.run cs = .error fault

/-- A scan that is done reads nothing. -/
theorem reads_pure (a : α) (cs : List Char) : Reads (pure a) cs a cs :=
  rfl

/-- What follows a step runs on what the step leaves. -/
theorem Reads.run_bind (h : s.Reads cs a mid) (f : α → TimeScan β) :
    (s >>= f).run cs = (f a).run mid := by
  rw [Reads] at h
  rw [StateT.run_bind, h]
  rfl

/-- A scan and the scan after it read what they read one after the other. -/
theorem Reads.bind (h : s.Reads cs a mid) (h' : (f a).Reads mid b rest) :
    Reads (s >>= f) cs b rest := by
  rw [Reads] at h h' ⊢
  rw [StateT.run_bind, h]
  exact h'

/-- A scan refuses what the scan after it refuses behind what was read. -/
theorem Reads.bind_refuses (h : s.Reads cs a mid) (h' : (f a).Refuses mid fault) :
    Refuses (s >>= f) cs fault := by
  rw [Reads] at h
  rw [Refuses] at h' ⊢
  rw [StateT.run_bind, h]
  exact h'

/-- A scan refuses what its first part refuses. -/
theorem Refuses.bind (h : s.Refuses cs fault) : Refuses (s >>= f) cs fault := by
  rw [Refuses] at h ⊢
  rw [StateT.run_bind, h]
  rfl

/-! ### Marks -/

/-- The characters that are left are seen and stay. -/
theorem reads_left (cs : List Char) : left.Reads cs cs cs :=
  rfl

/-- The characters that are left are put in place. -/
theorem reads_set (cs rest : List Char) : Reads (set rest) cs () rest :=
  rfl

/-- A character that is asked for is read. -/
theorem reads_literal (c : Char) (rest : List Char) : (literal c).Reads (c :: rest) () rest := by
  simp only [literal]
  refine (reads_left _).bind ?_
  simp only [if_true]
  exact reads_set ..

/-- No blanks are skipped before a character that is not blank. -/
theorem reads_skipBlanks {c : Char} (h : Text.isBlankChar c = false) (rest : List Char) :
    skipBlanks.Reads (c :: rest) () (c :: rest) := by
  have htrim : Text.trimStart (c :: rest) = c :: rest := by
    rw [Text.trimStart, List.dropWhile_cons_of_neg (by simp [h])]
  have hrun : skipBlanks.Reads (c :: rest) () (Text.trimStart (c :: rest)) := rfl
  rwa [htrim] at hrun

/-- A text is finished where nothing is left. -/
theorem reads_finished : finished.Reads [] () [] :=
  rfl

/-- A text is too long where something is left. -/
theorem refuses_finished (c : Char) (cs : List Char) : finished.Refuses (c :: cs) .tooLong :=
  rfl

/-- The letter of the universal time is the offset zero. -/
theorem reads_offset_utc (separator : TimeScan Unit) (rest : List Char) :
    (offset separator).Reads ('Z' :: rest) 0 rest :=
  rfl

/-- A number within its bounds is let through. -/
theorem reads_within {low high n : ℕ} (h : low ≤ n ∧ n ≤ high) (cs : List Char) :
    (within low high n).Reads cs n cs := by
  rw [within, if_pos h]
  exact reads_pure n cs

/-! ### Numbers -/

/-- Digits in a fixed width. -/
theorem reads_fixedDigits (hds : ∀ c ∈ ds, isDigit c = true) (rest : List Char) :
    (fixedDigits 0 ds.length).Reads (ds ++ rest) (ofDigits ds) rest := by
  -- said of digits after any number, which the tail of the digits needs
  have hafter : ∀ n, (fixedDigits n ds.length).Reads (ds ++ rest)
      (ds.foldl (fun n c => n * 10 + (digit? c).getD 0) n) rest := by
    induction ds with
    | nil => exact fun n => reads_pure n rest
    | cons c ds ih =>
      intro n
      obtain ⟨d, hd⟩ := Option.isSome_iff_exists.1 (hds c (List.mem_cons_self ..))
      rw [List.length_cons, List.foldl_cons, hd]
      simp only [fixedDigits]
      refine (reads_left _).bind ?_
      simp only [List.cons_append, hd]
      exact (reads_set ..).bind (ih (fun e he => hds e (List.mem_cons_of_mem _ he)) _)
  exact hafter 0

/-- A number written in a fixed width is read back. -/
theorem reads_fixedDigits_padded {w n : ℕ} (hw : 0 < w) (hn : n < 10 ^ w) (rest : List Char) :
    (fixedDigits 0 w).Reads (padded w n ++ rest) n rest := by
  have hdigits : ∀ c ∈ padded w n, isDigit c = true := fun _ hc => isDigit_of_mem_padded hc
  have hreads := reads_fixedDigits hdigits rest
  rwa [length_padded hw hn, ofDigits_padded] at hreads

/-- Two digits of an offset, the first one at most five when limited. -/
theorem reads_offsetPair {limited : Bool} {n : ℕ} (hn : n < 100) (hlimited : limited → n < 60)
    (rest : List Char) : (offsetPair limited).Reads (padded 2 n ++ rest) n rest := by
  obtain ⟨c, d, hcs⟩ := List.length_eq_two.1 (length_padded (by decide) hn)
  obtain ⟨i, hi⟩ := Option.isSome_iff_exists.1
    (isDigit_of_mem_padded (w := 2) (n := n) (c := c) (by simp [hcs]))
  obtain ⟨j, hj⟩ := Option.isSome_iff_exists.1
    (isDigit_of_mem_padded (w := 2) (n := n) (c := d) (by simp [hcs]))
  have hvalue : i * 10 + j = n := by
    have hdigits := ofDigits_padded 2 n
    rw [hcs] at hdigits
    simpa [ofDigits, hi, hj] using hdigits
  have hfits : ¬ (limited = true ∧ 5 < i) := by
    rintro ⟨hl, hi5⟩
    have hsmall := hlimited hl
    omega
  rw [hcs]
  simp only [offsetPair, List.cons_append, List.nil_append]
  refine (reads_left _).bind ?_
  simp only [hi, hj, hfits, if_false, hvalue]
  exact (reads_set ..).bind (reads_pure ..)

/-- Whether the digits of a number of at most `w` digits end where the rest begins. -/
def EndsDigits (w : ℕ) (ds rest : List Char) : Prop :=
  ds.length = w ∨ ∀ c, rest.head? = some c → isDigit c = false

/-- As many digits as there are, up to a width. -/
theorem digitsUpTo_append {w : ℕ} (hds : ∀ c ∈ ds, isDigit c = true) (hw : ds.length ≤ w)
    (hends : EndsDigits w ds rest) (hfit : ofDigits ds ≤ 9223372036854775807) :
    digitsUpTo 0 w (ds ++ rest) = .ok (ofDigits ds, rest) := by
  -- said of digits after any number and in any width, which the tail of the digits needs
  have hafter : ∀ n w, ds.length ≤ w → EndsDigits w ds rest →
      n * 10 ^ ds.length + ofDigits ds ≤ 9223372036854775807 →
      digitsUpTo n w (ds ++ rest) = .ok (n * 10 ^ ds.length + ofDigits ds, rest) := by
    clear hw hends hfit
    induction ds with
    | nil =>
      intro n w _ hends _
      cases w with
      | zero => simp [digitsUpTo, ofDigits]
      | succ w =>
        cases rest with
        | nil => simp [digitsUpTo, ofDigits]
        | cons c cs =>
          have hc : digit? c = none := by
            have hdigit := hends.resolve_left (by simp) c rfl
            rwa [isDigit, Option.isSome_eq_false_iff, Option.isNone_iff_eq_none] at hdigit
          simp [digitsUpTo, ofDigits, hc]
    | cons c ds ih =>
      intro n w hw hends hfit
      obtain ⟨d, hd⟩ := Option.isSome_iff_exists.1 (hds c (List.mem_cons_self ..))
      obtain ⟨w, rfl⟩ : ∃ v, w = v + 1 := ⟨w - 1, by simp at hw; omega⟩
      have hvalue : ofDigits (c :: ds) = d * 10 ^ ds.length + ofDigits ds := by
        rw [← List.singleton_append, ofDigits_append]
        simp [ofDigits, hd]
      have hsum : n * 10 ^ (c :: ds).length + ofDigits (c :: ds) =
          (n * 10 + d) * 10 ^ ds.length + ofDigits ds := by
        rw [hvalue, List.length_cons, Nat.pow_succ']
        ring
      rw [hsum] at hfit ⊢
      -- the number so far is no greater than the whole one, so no digit overflows
      have hsmall : ¬ 9223372036854775807 < n * 10 + d := by
        have hpow : n * 10 + d ≤ (n * 10 + d) * 10 ^ ds.length :=
          Nat.le_mul_of_pos_right _ (Nat.pow_pos (by decide))
        omega
      rw [List.cons_append, digitsUpTo, hd]
      simp only [hsmall, if_false]
      refine ih (fun e he => hds e (List.mem_cons_of_mem _ he)) _ w (by simpa using hw) ?_ hfit
      exact hends.imp (fun h => by simpa using h) id
  simpa using hafter 0 w hw hends (by simpa using hfit)

/-- Digits in a width of their own. -/
theorem reads_number {w : ℕ} (hne : ds ≠ []) (hds : ∀ c ∈ ds, isDigit c = true)
    (hw : ds.length ≤ w) (hends : EndsDigits w ds rest)
    (hfit : ofDigits ds ≤ 9223372036854775807) :
    (number w).Reads (ds ++ rest) (ofDigits ds) rest := by
  obtain ⟨c, cs, rfl⟩ := List.exists_cons_of_ne_nil hne
  have hdigits := digitsUpTo_append hds hw hends hfit
  rw [List.cons_append] at hdigits ⊢
  simp only [number]
  refine (reads_left _).bind ?_
  simp only [hds c (List.mem_cons_self ..), if_true, hdigits]
  exact (reads_set ..).bind (reads_pure ..)

/-- A number is read back in a width in which its digits end. -/
theorem reads_number_padded {k w n : ℕ} (hw : (padded k n).length ≤ w)
    (hends : EndsDigits w (padded k n) rest) (hfit : n ≤ 9223372036854775807) :
    (number w).Reads (padded k n ++ rest) n rest := by
  have hreads := reads_number (padded_ne_nil k n) (fun _ hc => isDigit_of_mem_padded hc) hw hends
    (by rwa [ofDigits_padded])
  rwa [ofDigits_padded] at hreads

/-- Eighteen digits are never too many for 64 bits. -/
theorem ofDigits_le_of_length_le (hds : ∀ c ∈ ds, isDigit c = true) (hlength : ds.length ≤ 18) :
    ofDigits ds ≤ 9223372036854775807 := by
  have hlt := ofDigits_lt hds
  have hpow : 10 ^ ds.length ≤ 10 ^ 18 := Nat.pow_le_pow_right (by decide) hlength
  omega

/-- A number in two digits within a range. -/
theorem reads_scanPair {low high n : ℕ} (h : low ≤ n ∧ n ≤ high) (hhigh : high < 100)
    (rest : List Char) : (scanPair low high).Reads (padded 2 n ++ rest) n rest := by
  have hlength : (padded 2 n).length = 2 := length_padded (by decide) (by omega)
  have hnumber : (number 2).Reads (padded 2 n ++ rest) n rest :=
    reads_number_padded hlength.le (.inl hlength) (by omega)
  obtain ⟨c, cs, hc, hcs⟩ := exists_padded_eq_cons 2 n
  rw [hcs, List.cons_append] at hnumber ⊢
  refine (reads_skipBlanks (isBlankChar_of_isDigit hc) _).bind ?_
  exact hnumber.bind (reads_within h rest)

/-- The digits after a point, of which nine count. -/
theorem reads_optionalFraction (hne : ds ≠ []) (hds : ∀ c ∈ ds, isDigit c = true)
    (hrest : ∀ c, rest.head? = some c → isDigit c = false) :
    optionalFraction.Reads ('.' :: ds ++ rest)
      (ofDigits (ds.take 9) * 10 ^ (9 - (ds.take 9).length)) rest := by
  have htake : ∀ c ∈ ds.take 9, isDigit c = true := fun c hc => hds c (List.mem_of_mem_take hc)
  have hends : EndsDigits 9 (ds.take 9) (ds.drop 9 ++ rest) := by
    rcases Nat.lt_or_ge ds.length 9 with hlt | hge
    · rw [List.drop_of_length_le hlt.le]
      exact .inr hrest
    · exact .inl (by simpa using hge)
  have hnumber : (number 9).Reads (ds ++ rest) (ofDigits (ds.take 9)) (ds.drop 9 ++ rest) := by
    have hreads := reads_number (by simpa using hne) htake (List.length_take_le ..) hends
      (ofDigits_le_of_length_le htake (by simp))
    rwa [← List.append_assoc, List.take_append_drop] at hreads
  have hdrop : (ds.drop 9 ++ rest).dropWhile isDigit = rest :=
    dropWhile_append_of_head? (fun c hc => hds c (List.mem_of_mem_drop hc)) hrest
  have hlength : (ds ++ rest).length - (ds.drop 9 ++ rest).length = (ds.take 9).length := by
    simp
    omega
  simp only [optionalFraction]
  refine (reads_left _).bind ?_
  simp only [List.cons_append]
  refine (reads_set ..).bind ?_
  simp only [fraction]
  refine (reads_left _).bind (hnumber.bind ((reads_left _).bind ?_))
  rw [hdrop, hlength]
  exact (reads_set ..).bind (reads_pure ..)

/-! ### Dates and times of day -/

/-- A year, in four digits or with a sign. -/
theorem reads_scanYear {y : ℤ} (h : -2147483648 ≤ y ∧ y ≤ 2147483647) (rest : List Char) :
    scanYear.Reads (yearText y ++ '-' :: rest) y ('-' :: rest) := by
  have hfit : y.natAbs ≤ 9223372036854775807 := by omega
  have hminus : ∀ c, ('-' :: rest).head? = some c → isDigit c = false := by
    rintro c ⟨⟩
    decide
  -- after a sign the digits may be as many as there are characters left
  have hsigned : (number (padded 4 y.natAbs ++ '-' :: rest).length).Reads
      (padded 4 y.natAbs ++ '-' :: rest) y.natAbs ('-' :: rest) :=
    reads_number_padded (by simp) (.inr hminus) hfit
  rw [yearText]
  split_ifs with hplain hneg
  · obtain ⟨c, cs, hc, hcs⟩ := exists_padded_eq_cons 4 y.natAbs
    have hlength : (padded 4 y.natAbs).length = 4 := length_padded (by decide) (by omega)
    have hnumber := reads_number_padded hlength.le (.inr hminus) hfit
    rw [hcs, List.cons_append] at hnumber
    rw [hcs, List.cons_append]
    simp only [scanYear]
    refine (reads_skipBlanks (isBlankChar_of_isDigit hc) _).bind ((reads_left _).bind ?_)
    split
    · next heq => exact absurd hc (by rw [(List.cons.inj heq).1]; decide)
    · next heq => exact absurd hc (by rw [(List.cons.inj heq).1]; decide)
    · have hvalue : (y.natAbs : ℤ) = y := by omega
      refine hnumber.bind ?_
      rw [hvalue]
      exact reads_pure ..
  · have hvalue : -(y.natAbs : ℤ) = y := by omega
    have hsmall : ¬ 2147483648 < y.natAbs := by omega
    simp only [scanYear, List.cons_append]
    refine (reads_skipBlanks (by decide) _).bind ((reads_left _).bind ?_)
    refine (reads_set ..).bind (hsigned.bind ?_)
    simp only [hsmall, if_false, hvalue]
    exact reads_pure ..
  · have hvalue : (y.natAbs : ℤ) = y := by omega
    have hsmall : ¬ 2147483647 < y.natAbs := by omega
    simp only [scanYear, List.cons_append]
    refine (reads_skipBlanks (by decide) _).bind ((reads_left _).bind ?_)
    refine (reads_set ..).bind (hsigned.bind ?_)
    simp only [hsmall, if_false, hvalue]
    exact reads_pure ..

/-- A date, where nothing fills the gaps. -/
theorem reads_scanDate {d : Date} (hcivil : d.IsCivil)
    (hyear : -2147483648 ≤ d.year ∧ d.year ≤ 2147483647) {gap : TimeScan Unit}
    (hgap : ∀ cs, gap.Reads ('-' :: cs) () ('-' :: cs)) (rest : List Char) :
    (scanDate gap).Reads (d.text ++ rest) d rest := by
  obtain ⟨hmonth₀, hmonth₁, hday₀, hday₁⟩ := hcivil
  have hday := hday₁.trans (Date.daysInMonth_le d.year d.month)
  simp only [scanDate, Date.text, List.append_assoc, List.cons_append]
  refine (reads_scanYear hyear _).bind ((hgap _).bind ((reads_literal ..).bind ?_))
  refine (reads_scanPair ⟨hmonth₀, hmonth₁⟩ (by decide) _).bind ((hgap _).bind ?_)
  refine (reads_literal ..).bind ((reads_scanPair ⟨hday₀, hday⟩ (by decide) _).bind ?_)
  exact reads_pure ..

/-- A time of day with what follows its seconds, where nothing fills the gaps. -/
theorem reads_scanTime {t : TimeOfDay} (ht : t.isValid = true) {gap : TimeScan Unit}
    (hgap : ∀ cs, gap.Reads (':' :: cs) () (':' :: cs)) {tail : List Char}
    (htail : optionalFraction.Reads tail t.nano rest) :
    (scanTime gap).Reads (t.text ++ tail) t rest := by
  simp only [TimeOfDay.isValid, decide_eq_true_eq] at ht
  simp only [scanTime, TimeOfDay.text, List.append_assoc, List.cons_append]
  refine (reads_scanPair ⟨Nat.zero_le _, by omega⟩ (by decide) _).bind ((hgap _).bind ?_)
  refine (reads_literal ..).bind ((reads_scanPair ⟨Nat.zero_le _, by omega⟩ (by decide) _).bind ?_)
  refine (hgap _).bind ((reads_literal ..).bind ?_)
  refine (reads_scanPair ⟨Nat.zero_le _, by omega⟩ (by decide) _).bind (htail.bind ?_)
  exact reads_pure ..

/-- What was read is an instant when the calendar and the day have it. -/
theorem reads_scanned {d : Date} {t : TimeOfDay} {off : ℤ} {instant : Timestamp}
    (hd : d.isValid = true) (ht : t.isValid = true) (hoff : -86400 < off ∧ off < 86400)
    (h : Timestamp.ofCivil? d t off = some instant) (cs : List Char) :
    (scanned d t off).Reads cs instant cs := by
  have hlow : ¬ off ≤ -86400 := by omega
  have hhigh : ¬ 86400 ≤ off := by omega
  simp only [scanned, hd, ht, hlow, hhigh, h]
  exact reads_pure ..

/-- What the strict form reads behind its date. -/
def scanClock (date : Date) : TimeScan Timestamp := do
  match ← left with
  | [] => throw .tooShort
  | c :: cs => if c = 'T' ∨ c = 't' ∨ c = ' ' then set cs else throw .invalid
  let hour ← fixedDigits 0 2
  literal ':'
  let minute ← fixedDigits 0 2
  literal ':'
  let second ← fixedDigits 0 2
  let nano ← optionalFraction
  let time : TimeOfDay := ⟨hour, minute, second, nano⟩
  if !time.isValid then throw .outOfRange
  let off ← offset (literal ':')
  finished
  scanned date time off

/-- The strict form reads a date whose year has four digits. -/
theorem run_scanStrict {d : Date} (hyear : 0 ≤ d.year ∧ d.year ≤ 9999) (hd : d.isValid = true)
    (rest : List Char) : scanStrict.run (d.text ++ rest) = (scanClock d).run rest := by
  obtain ⟨-, -, hmonth₀, hmonth₁, hday₀, hday₁⟩ := Date.isValid_iff.1 hd
  have hday := hday₁.trans (Date.daysInMonth_le d.year d.month)
  have hvalue : (d.year.natAbs : ℤ) = d.year := by omega
  simp only [scanStrict, Date.text, yearText, hyear, List.append_assoc, List.cons_append]
  refine ((reads_fixedDigits_padded (by decide) (by omega) _).run_bind _).trans ?_
  refine ((reads_literal ..).run_bind _).trans ?_
  refine ((reads_fixedDigits_padded (by decide) (by omega) _).run_bind _).trans ?_
  refine ((reads_literal ..).run_bind _).trans ?_
  refine ((reads_fixedDigits_padded (by decide) (by omega) _).run_bind _).trans ?_
  simp only [hvalue, hd, Bool.not_true, Bool.false_eq_true, if_false]
  rfl

/-- Behind the date the strict form reads a time of day and a fraction. -/
theorem run_scanClock {d : Date} {t : TimeOfDay} {tail : List Char} (ht : t.isValid = true)
    (htail : optionalFraction.Reads tail t.nano mid) :
    (scanClock d).run ('T' :: (t.text ++ tail)) =
      StateT.run (do
        let off ← offset (literal ':')
        finished
        scanned d t off) mid := by
  have htime := ht
  simp only [TimeOfDay.isValid, decide_eq_true_eq] at htime
  simp only [scanClock, TimeOfDay.text, List.append_assoc, List.cons_append]
  refine ((reads_left _).run_bind _).trans ?_
  simp only [true_or, if_true]
  refine ((reads_set ..).run_bind _).trans ?_
  refine ((reads_fixedDigits_padded (by decide) (by omega) _).run_bind _).trans ?_
  refine ((reads_literal ..).run_bind _).trans ?_
  refine ((reads_fixedDigits_padded (by decide) (by omega) _).run_bind _).trans ?_
  refine ((reads_literal ..).run_bind _).trans ?_
  refine ((reads_fixedDigits_padded (by decide) (by omega) _).run_bind _).trans ?_
  refine (htail.run_bind _).trans ?_
  simp only [ht, Bool.not_true, Bool.false_eq_true, if_false]

/-- **The strict form is read**: a year in four digits, a date of the calendar, a time of day, a
fraction and an offset. -/
theorem reads_scanStrict {d : Date} {t : TimeOfDay} {off : ℤ} {instant : Timestamp}
    {tail : List Char} (hyear : 0 ≤ d.year ∧ d.year ≤ 9999) (hd : d.isValid = true)
    (ht : t.isValid = true)
    (htail : optionalFraction.Reads tail t.nano mid)
    (hoffset : (offset (literal ':')).Reads mid off []) (hoff : -86400 < off ∧ off < 86400)
    (h : Timestamp.ofCivil? d t off = some instant) :
    scanStrict.Reads (d.text ++ 'T' :: (t.text ++ tail)) instant [] := by
  rw [Reads, run_scanStrict hyear hd, run_scanClock ht htail]
  exact hoffset.bind (reads_finished.bind (reads_scanned hd ht hoff h []))

/-- The strict form does not end without an offset. -/
theorem refuses_scanStrict_zoneless {d : Date} {t : TimeOfDay} {tail : List Char}
    (hyear : 0 ≤ d.year ∧ d.year ≤ 9999) (hd : d.isValid = true) (ht : t.isValid = true)
    (htail : optionalFraction.Reads tail t.nano []) :
    scanStrict.Refuses (d.text ++ 'T' :: (t.text ++ tail)) .tooShort := by
  rw [Refuses, run_scanStrict hyear hd, run_scanClock ht htail]
  rfl

/-- Nor does it end behind the date. -/
theorem refuses_scanStrict_date {d : Date} (hyear : 0 ≤ d.year ∧ d.year ≤ 9999)
    (hd : d.isValid = true) : scanStrict.Refuses d.text .tooShort := by
  have hrun := run_scanStrict hyear hd []
  rw [List.append_nil] at hrun
  rw [Refuses, hrun]
  rfl

/-- The strict form has no sign at its start. -/
theorem refuses_scanStrict {c : Char} (h : digit? c = none) (cs : List Char) :
    scanStrict.Refuses (c :: cs) .invalid := by
  simp only [scanStrict]
  refine Refuses.bind ?_
  simp only [fixedDigits]
  refine (reads_left _).bind_refuses ?_
  simp only [h]
  rfl

/-- **A date and a time of day without a zone** are read as UTC. -/
theorem reads_scanZoneless {d : Date} {t : TimeOfDay} {tail : List Char} {instant : Timestamp}
    (hd : d.isValid = true) (ht : t.isValid = true)
    (htail : optionalFraction.Reads tail t.nano [])
    (h : Timestamp.ofCivil? d t 0 = some instant) :
    scanZoneless.Reads (d.text ++ 'T' :: (t.text ++ tail)) instant [] := by
  obtain ⟨hlow, hhigh, hcivil⟩ := Date.isValid_iff.1 hd
  simp only [scanZoneless]
  refine (reads_scanDate hcivil (by omega) (fun _ => reads_pure ..) _).bind ?_
  refine (reads_literal ..).bind ?_
  refine (reads_scanTime ht (fun _ => reads_pure ..) htail).bind ?_
  exact reads_finished.bind (reads_scanned hd ht (by decide) h [])

/-- **A date alone** is read as its midnight. -/
theorem reads_scanMidnight {d : Date} {instant : Timestamp} (hd : d.isValid = true)
    (h : Timestamp.ofCivil? d .midnight 0 = some instant) :
    scanMidnight.Reads d.text instant [] := by
  obtain ⟨hlow, hhigh, hcivil⟩ := Date.isValid_iff.1 hd
  have hdate := reads_scanDate hcivil (by omega) (fun _ => reads_pure ..) []
  rw [List.append_nil] at hdate
  simp only [scanMidnight]
  exact hdate.bind (reads_finished.bind (reads_scanned hd (by decide) (by decide) h []))

/-- A date alone has no time of day. -/
theorem refuses_scanZoneless_date {d : Date} (hd : d.isValid = true) :
    scanZoneless.Refuses d.text .tooShort := by
  obtain ⟨hlow, hhigh, hcivil⟩ := Date.isValid_iff.1 hd
  have hdate := reads_scanDate hcivil (by omega) (fun _ => reads_pure ..) []
  rw [List.append_nil] at hdate
  simp only [scanZoneless]
  refine hdate.bind_refuses (Refuses.bind ?_)
  rfl

/-- **Without a zone nothing may follow the time.** -/
theorem refuses_scanZoneless {d : Date} {t : TimeOfDay} {tail : List Char} {c : Char}
    (hcivil : d.IsCivil) (hyear : -2147483648 ≤ d.year ∧ d.year ≤ 2147483647)
    (ht : t.isValid = true) (htail : optionalFraction.Reads tail t.nano (c :: rest)) :
    scanZoneless.Refuses (d.text ++ 'T' :: (t.text ++ tail)) .tooLong := by
  simp only [scanZoneless]
  refine (reads_scanDate hcivil hyear (fun _ => reads_pure ..) _).bind_refuses ?_
  refine (reads_literal ..).bind_refuses ?_
  exact (reads_scanTime ht (fun _ => reads_pure ..) htail).bind_refuses (refuses_finished ..).bind

/-- **Nor may anything follow a date alone.** -/
theorem refuses_scanMidnight {d : Date} {c : Char} (hcivil : d.IsCivil)
    (hyear : -2147483648 ≤ d.year ∧ d.year ≤ 2147483647) (cs : List Char) :
    scanMidnight.Refuses (d.text ++ c :: cs) .tooLong := by
  simp only [scanMidnight]
  refine (reads_scanDate hcivil hyear (fun _ => reads_pure ..) _).bind_refuses ?_
  exact (refuses_finished ..).bind

/-! ### Whole texts -/

variable {s : TimeScan Timestamp} {instant : Timestamp} {fault : TimeFault}

/-- What a scan reads is its instant, whatever is left. -/
theorem Reads.scan?_eq_some (h : s.Reads cs instant rest) : scan? s cs = some instant := by
  rw [Reads] at h
  rw [scan?, h]

/-- What a scan refuses has no instant. -/
theorem Refuses.scan?_eq_none (h : s.Refuses cs fault) : scan? s cs = none := by
  rw [Refuses] at h
  rw [scan?, h]

/-- What the scan of the strict form reads is the instant of a text that is long enough for the
form. -/
theorem Reads.readStrict_eq_ok (h : scanStrict.Reads cs instant rest)
    (hsize : 19 ≤ (String.ofList cs).utf8ByteSize) : readStrict cs = .ok instant := by
  rw [Reads] at h
  rw [readStrict, if_neg (Nat.not_lt.2 hsize), h]
  rfl

/-- What the scan of the strict form refuses is refused with the same fault in a text that is long
enough for the form. -/
theorem Refuses.readStrict_eq_error (h : scanStrict.Refuses cs fault)
    (hsize : 19 ≤ (String.ofList cs).utf8ByteSize) : readStrict cs = .error fault := by
  rw [Refuses] at h
  rw [readStrict, if_neg (Nat.not_lt.2 hsize), h]
  rfl

end TimeScan
end CourtDocket
