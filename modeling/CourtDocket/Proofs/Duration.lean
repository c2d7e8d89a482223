/-
# Labels of durations are read back

The label of a duration that is not over is a number of minutes, or a number of hours and one of
minutes: `45m`, `1h 05m`.  A `DurationReading` is such a pair of numbers, each in any decimal
digits.  A text has at most one reading (`DurationReading.eq_of_text_eq`), for the first character
that is no digit ends the first number and tells which one it is, and the label of a whole number of
minutes has one (`DurationReading.text_ofMinutes`).  So a label tells the whole minutes of its
duration and nothing else, and `Due`, which has no reading, is told apart from `0m`.
-/

import CourtDocket.Countdown.Duration
import CourtDocket.Proofs.Number.FloatText
import CourtDocket.Proofs.Time.Scan

namespace CourtDocket

open Number FloatLayout

/-- What a number is written with are digits. -/
theorem isDigits_padded (w n : ℕ) : IsDigits (Timestamp.padded w n) :=
  ⟨Timestamp.padded_ne_nil w n, fun _ hc => Timestamp.isDigit_of_mem_padded hc⟩

/-- Digits end at the first character that is none. -/
theorem Number.IsDigits.eq_of_append_eq {ds es rest rest' : List Char} {c d : Char}
    (hds : IsDigits ds) (hes : IsDigits es) (hc : isDigit c = false) (hd : isDigit d = false)
    (h : ds ++ c :: rest = es ++ d :: rest') : ds = es ∧ c = d ∧ rest = rest' := by
  have hends : ∀ (cs : List Char) {c : Char}, isDigit c = false →
      ∀ x, (c :: cs).head? = some x → isDigit x = false := by
    intro cs c hc x hx
    exact Option.some.inj hx ▸ hc
  obtain ⟨htake, hdrop⟩ := span_digits_append hds.2 (hends rest hc)
  obtain ⟨htake', hdrop'⟩ := span_digits_append hes.2 (hends rest' hd)
  rw [h, htake'] at htake
  rw [h, hdrop'] at hdrop
  obtain ⟨rfl, rfl⟩ := List.cons.inj hdrop
  exact ⟨htake.symm, rfl, rfl⟩

/-! ### Readings -/

/-- The numbers of a label: digits of the minutes, and of the hours when there are any. -/
structure DurationReading where
  /-- The digits before the mark of the hours. -/
  hours : Option (List Char)
  /-- The digits before the mark of the minutes. -/
  minutes : List Char
  /-- The hours are a number. -/
  isDigits_hours : ∀ ds ∈ hours, IsDigits ds
  /-- The minutes are a number. -/
  isDigits_minutes : IsDigits minutes

namespace DurationReading

/-- The text of a reading: each number with its mark, and a blank between the two. -/
def text (r : DurationReading) : String :=
  String.ofList <|
    match r.hours with
    | none => r.minutes ++ ['m']
    | some ds => ds ++ 'h' :: ' ' :: (r.minutes ++ ['m'])

/-- The number of hours, none when they are left out. -/
def hourCount (r : DurationReading) : ℕ :=
  (r.hours.map ofDigits).getD 0

/-- The number of minutes. -/
def minuteCount (r : DurationReading) : ℕ :=
  ofDigits r.minutes

/-- **A text has at most one reading.** -/
theorem eq_of_text_eq {r s : DurationReading} (h : r.text = s.text) : r = s := by
  obtain ⟨hours, minutes, hhours, hminutes⟩ := r
  obtain ⟨hours', minutes', hhours', hminutes'⟩ := s
  have hh : isDigit 'h' = false := by decide
  have hm : isDigit 'm' = false := by decide
  simp only [text, String.ofList_inj] at h
  cases hours with
  | none =>
    cases hours' with
    | none =>
      obtain ⟨rfl, -, -⟩ := hminutes.eq_of_append_eq hminutes' hm hm h
      rfl
    | some es =>
      obtain ⟨-, hmark, -⟩ := hminutes.eq_of_append_eq (hhours' es rfl) hm hh h
      cases hmark
  | some ds =>
    cases hours' with
    | none =>
      obtain ⟨-, hmark, -⟩ := (hhours ds rfl).eq_of_append_eq hminutes' hh hm h
      cases hmark
    | some es =>
      obtain ⟨rfl, -, hrest⟩ := (hhours ds rfl).eq_of_append_eq (hhours' es rfl) hh hh h
      obtain ⟨rfl, -, -⟩ := hminutes.eq_of_append_eq hminutes' hm hm (List.cons.inj hrest).2
      rfl

/-- The label of what is over has no reading: it does not start with a digit. -/
theorem text_ne_dueLabel (r : DurationReading) : r.text ≠ dueLabel := by
  intro h
  have hstart : ∀ {ds : List Char} (rest : List Char), IsDigits ds →
      ds ++ rest ≠ ['D', 'u', 'e'] := by
    rintro ds rest ⟨hne, hds⟩ heq
    obtain ⟨d, ds, rfl⟩ := List.exists_cons_of_ne_nil hne
    obtain ⟨rfl, -⟩ := List.cons.inj heq
    exact absurd (hds 'D' (List.mem_cons_self ..)) (by decide)
  have hdue : dueLabel = String.ofList ['D', 'u', 'e'] := rfl
  rw [hdue, text, String.ofList_inj] at h
  split at h
  · exact hstart _ r.isDigits_minutes h
  · next ds hds => exact hstart _ (r.isDigits_hours ds hds) h

/-! ### The reading of a whole number of minutes -/

/-- The reading of a whole number of minutes. -/
def ofMinutes (n : ℕ) : DurationReading :=
  if n / 60 = 0 then
    { hours := none
      minutes := decimalDigits n
      isDigits_hours := fun _ h => by cases h
      isDigits_minutes := isDigits_decimalDigits n }
  else
    { hours := some (decimalDigits (n / 60))
      minutes := Timestamp.padded 2 (n % 60)
      isDigits_hours := fun _ h => Option.some.inj h ▸ isDigits_decimalDigits _
      isDigits_minutes := isDigits_padded 2 _ }

/-- **The label of a whole number of minutes has a reading.** -/
theorem text_ofMinutes (n : ℕ) : (ofMinutes n).text = minutesLabel n := by
  rw [ofMinutes, minutesLabel]
  split_ifs with hhours
  · rfl
  · simp [text]

/-- **What a reading tells** of a number of minutes. -/
structure Tells (r : DurationReading) (minutes : ℤ) : Prop where
  /-- Hours and minutes add up to the number. -/
  total : 60 * (r.hourCount : ℤ) + r.minuteCount = minutes
  /-- The minutes are less than an hour. -/
  minuteCount_lt : r.minuteCount < 60
  /-- Hours are shown just when there are any. -/
  isSome_hours_iff : r.hours.isSome = true ↔ 0 < r.hourCount
  /-- Behind hours the minutes have two digits. -/
  length_minutes : r.hours.isSome = true → r.minutes.length = 2
  /-- The first number has no needless zero. -/
  no_leading_zero : r.hours.getD r.minutes = decimalDigits (if r.hours.isSome then r.hourCount
    else r.minuteCount)

/-- The label of minutes tells their hours and the rest, in two digits behind hours. -/
theorem tells_ofMinutes (n : ℕ) : (ofMinutes n).Tells n := by
  rw [ofMinutes]
  split_ifs with hhours
  · have hminutes : ofDigits (decimalDigits n) = n := ofDigits_decimalDigits n
    constructor <;> simp only [hourCount, minuteCount, Option.map_none, Option.getD_none, hminutes]
    case total => omega
    case minuteCount_lt => omega
    case isSome_hours_iff => simp
    case length_minutes => simp
    case no_leading_zero => simp
  · have hhourCount : ofDigits (decimalDigits (n / 60)) = n / 60 := ofDigits_decimalDigits _
    have hminutes : ofDigits (Timestamp.padded 2 (n % 60)) = n % 60 := Timestamp.ofDigits_padded _ _
    constructor <;>
      simp only [hourCount, minuteCount, Option.map_some, Option.getD_some, hhourCount, hminutes]
    case total => omega
    case minuteCount_lt => omega
    case isSome_hours_iff => simp; omega
    case length_minutes => exact fun _ => Timestamp.length_padded (by decide) (by omega)
    case no_leading_zero => simp

end DurationReading

open DurationReading

/-- Labels of minutes are the same just when the minutes are. -/
theorem minutesLabel_inj {m n : ℕ} : minutesLabel m = minutesLabel n ↔ m = n := by
  refine ⟨fun h => ?_, congrArg minutesLabel⟩
  rw [← text_ofMinutes, ← text_ofMinutes] at h
  have hm := (tells_ofMinutes m).total
  rw [eq_of_text_eq h, (tells_ofMinutes n).total] at hm
  exact_mod_cast hm.symm

/-- No number of minutes has the label of what is over. -/
theorem minutesLabel_ne_dueLabel (n : ℕ) : minutesLabel n ≠ dueLabel :=
  text_ofMinutes n ▸ text_ne_dueLabel _

/-! ### Labels of durations -/

variable {ms : Int64}

/-- What is over is due. -/
theorem durationLabel_of_nonpos (h : ms.toInt ≤ 0) : durationLabel ms = dueLabel :=
  if_pos (Int64.le_iff_toInt_le.2 h)

/-- What is not over has the label of its whole minutes. -/
theorem durationLabel_of_pos (h : 0 < ms.toInt) :
    durationLabel ms = minutesLabel (ms.toInt / 60000).toNat :=
  if_neg (Int64.le_iff_toInt_le.not.2 h.not_ge)

/-- Labels are equal just when nothing remains of either duration, or of both the same whole
number of minutes does. -/
theorem durationLabel_eq_iff (a b : Int64) : durationLabel a = durationLabel b ↔
    a.toInt ≤ 0 ∧ b.toInt ≤ 0 ∨
      0 < a.toInt ∧ 0 < b.toInt ∧ a.toInt / 60000 = b.toInt / 60000 := by
  rcases le_or_gt a.toInt 0 with ha | ha <;> rcases le_or_gt b.toInt 0 with hb | hb
  · rw [durationLabel_of_nonpos ha, durationLabel_of_nonpos hb]
    exact iff_of_true rfl (.inl ⟨ha, hb⟩)
  · rw [durationLabel_of_nonpos ha, durationLabel_of_pos hb]
    exact iff_of_false (minutesLabel_ne_dueLabel _).symm (by omega)
  · rw [durationLabel_of_pos ha, durationLabel_of_nonpos hb]
    exact iff_of_false (minutesLabel_ne_dueLabel _) (by omega)
  · rw [durationLabel_of_pos ha, durationLabel_of_pos hb, minutesLabel_inj]
    omega

/-- **A label tells the whole minutes of its duration, and nothing else.**  Two durations have one
label just when both are over or both have the same whole number of minutes left.  The label of a
duration that is not over has exactly one reading, which tells this number; that of one that is over
is `Due` and has none. -/
theorem durationLabel_faithful :
    (∀ a b : Int64, durationLabel a = durationLabel b ↔
      a.toInt ≤ 0 ∧ b.toInt ≤ 0 ∨
        0 < a.toInt ∧ 0 < b.toInt ∧ a.toInt / 60000 = b.toInt / 60000) ∧
    (∀ ms : Int64, 0 < ms.toInt → ∃ r : DurationReading, r.Tells (ms.toInt / 60000) ∧
      ∀ s : DurationReading, s.text = durationLabel ms ↔ s = r) ∧
    ∀ ms : Int64, ms.toInt ≤ 0 →
      durationLabel ms = "Due" ∧ ∀ s : DurationReading, s.text ≠ durationLabel ms := by
  refine ⟨durationLabel_eq_iff, fun ms h => ⟨ofMinutes (ms.toInt / 60000).toNat, ?_, fun s => ?_⟩,
    fun ms h => ⟨durationLabel_of_nonpos h, fun s => ?_⟩⟩
  · have htells := tells_ofMinutes (ms.toInt / 60000).toNat
    rwa [Int.toNat_of_nonneg (by omega)] at htells
  · rw [durationLabel_of_pos h, ← text_ofMinutes]
    exact ⟨eq_of_text_eq, congrArg text⟩
  · rw [durationLabel_of_nonpos h]
    exact s.text_ne_dueLabel

/-- The last millisecond of an hour is shown as its last minute: the label has one reading. -/
theorem durationLabel_faithful_lastMinute : durationLabel 7199999 = "1h 59m" ∧
    ∃ r : DurationReading, r.Tells 119 ∧
      ∀ s : DurationReading, s.text = "1h 59m" ↔ s = r := by
  have hlabel : durationLabel 7199999 = "1h 59m" := by decide +kernel
  refine ⟨hlabel, ?_⟩
  have hreading := durationLabel_faithful.2.1 7199999 (by decide)
  rwa [hlabel] at hreading

end CourtDocket
