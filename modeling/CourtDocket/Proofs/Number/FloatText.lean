/-
# Numbers are read as they are written

A numeral with digits before the point, and perhaps some behind it and an exponent, is read as the
decimal of all its digits (`Json.Numeral.SpelledBy.readFloat?_eq`).  The two notations place the
same digits differently and agree on the value (`toRat_decimal_plain`,
`toRat_decimal_scientific`).  So a finite number is read from its text in every layout that marks
a positive exponent with a plus or with nothing (`FloatLayout.readFloat?_write`).
-/

import CourtDocket.Proofs.Json.Numeral
import CourtDocket.Proofs.Number.ReadBack

namespace CourtDocket

open Number FloatLayout

namespace Number

variable {ds rest : List Char}

/-- A run of digits ends where something else begins. -/
theorem span_digits_append (hds : ∀ c ∈ ds, isDigit c = true)
    (hrest : ∀ c, rest.head? = some c → isDigit c = false) :
    (ds ++ rest).takeWhile isDigit = ds ∧ (ds ++ rest).dropWhile isDigit = rest := by
  rw [List.takeWhile_append_of_pos hds, List.dropWhile_append_of_pos hds]
  cases rest with
  | nil => exact ⟨List.append_nil ds, rfl⟩
  | cons c rest =>
    have hc : ¬isDigit c = true := by simp [hrest c rfl]
    rw [List.takeWhile_cons_of_neg hc, List.dropWhile_cons_of_neg hc, List.append_nil]
    exact ⟨rfl, rfl⟩

/-- Digits have no sign before them. -/
theorem splitSign_digits (hds : ∀ c ∈ ds, isDigit c = true) (rest : List Char) (hne : ds ≠ []) :
    splitSign (ds ++ rest) = (false, ds ++ rest) := by
  obtain ⟨d, ds, rfl⟩ := List.exists_cons_of_ne_nil hne
  have hd := hds d (List.mem_cons_self ..)
  rw [List.cons_append, splitSign]
  · rintro cs hminus
    obtain rfl : d = '-' := (List.cons.inj hminus).1
    revert hd
    decide
  · rintro cs hplus
    obtain rfl : d = '+' := (List.cons.inj hplus).1
    revert hd
    decide

/-- A digit has no other letter case. -/
theorem toLower_of_isDigit {c : Char} (h : isDigit c = true) : c.toLower = c := by
  obtain ⟨d, hd, rfl⟩ := exists_digitChar h
  decide +revert

/-- What starts with a digit is no word, and is read as digits. -/
theorem readFloat?_of_splitSign {cs : List Char} {negative : Bool} {d : Char}
    (hsign : splitSign cs = (negative, d :: ds)) (hd : isDigit d = true) :
    readFloat? cs = readDecimal? negative (d :: ds) := by
  have hword : ∀ w : String, w.toList.head?.any isDigit = false →
      String.ofList ((d :: ds).map Char.toLower) ≠ w := by
    rintro w hw rfl
    rw [String.toList_ofList, List.map_cons, toLower_of_isDigit hd, List.head?_cons,
      Option.any_some, hd] at hw
    cases hw
  have hnan := hword "nan" (by decide)
  have hinf := hword "inf" (by decide)
  have hinfinity := hword "infinity" (by decide)
  simp only [readFloat?, hsign, hnan, hinf, hinfinity, or_self, if_false]

/-- An integer is read from its digits and its sign. -/
theorem readInteger?_of_splitSign {cs : List Char} {negative : Bool}
    (hsign : splitSign cs = (negative, ds)) (hne : ds ≠ []) (hds : ∀ c ∈ ds, isDigit c = true) :
    readInteger? cs = some (if negative then -(ofDigits ds : ℤ) else ofDigits ds) := by
  have hall : ds.all isDigit = true := List.all_eq_true.2 hds
  simp [readInteger?, hsign, hne, hall]

end Number

namespace Json
namespace Numeral

variable {n : Numeral} {ds : List Char}

/-- The power of ten of an exponent. -/
def power : Option (Bool × List Char) → ℤ
  | none => 0
  | some (negative, ds) => if negative then -(ofDigits ds : ℤ) else ofDigits ds

/-- The decimal that a numeral writes, its sign aside. -/
def decimal (n : Numeral) : Decimal :=
  ⟨ofDigits (n.whole ++ n.fraction), power n.exponent - n.fraction.length⟩

/-- An exponent that is spelled is read as its power. -/
theorem readExponent?_of_spelledBy {e : Option (Bool × List Char)} {t : List Char}
    (h : ExponentSpelledBy e t) : readExponent? t = some (power e) := by
  cases h with
  | none => rfl
  | @some mark negative sign ds hmark hsign hne hds =>
    have hsplit : splitSign (sign ++ ds) = (negative, ds) := by
      rcases hsign with rfl | ⟨rfl, rfl⟩
      · cases negative <;> rfl
      · have hnone := splitSign_digits hds [] hne
        rwa [List.append_nil] at hnone
    rw [readExponent?, if_pos hmark, readInteger?_of_splitSign hsplit hne hds]
    rfl

/-- What follows a number without an exponent is its exponent. -/
theorem head?_of_exponentSpelledBy {e : Option (Bool × List Char)} {t : List Char}
    (h : ExponentSpelledBy e t) (c : Char) (hc : t.head? = some c) :
    isDigit c = false ∧ c ≠ '.' := by
  cases h with
  | none => cases hc
  | @some mark _ _ _ hmark =>
    obtain rfl : mark = c := Option.some.inj hc
    rcases hmark with rfl | rfl <;> decide

/-- The digits of a numeral are read, those after the point lowering the exponent. -/
theorem WellFormed.readDecimal?_eq (h : n.WellFormed) {t : List Char}
    (ht : ExponentSpelledBy n.exponent t) (negative : Bool) :
    readDecimal? negative (n.whole ++ (fractionText n.fraction ++ t)) =
      some (.ofDecimal negative n.decimal.digits n.decimal.exponent) := by
  have hexponent := readExponent?_of_spelledBy ht
  have hend := head?_of_exponentSpelledBy ht
  have hwhole : ∀ c, (fractionText n.fraction ++ t).head? = some c → isDigit c = false := by
    intro c hc
    rw [fractionText] at hc
    split_ifs at hc
    · exact (hend c hc).1
    · obtain rfl : '.' = c := Option.some.inj hc
      decide
  obtain ⟨htake, hdrop⟩ := span_digits_append h.whole hwhole
  obtain ⟨htake', hdrop'⟩ := span_digits_append h.fraction fun c hc => (hend c hc).1
  have hne : n.whole.isEmpty = false := by simp [h.whole_ne_nil]
  simp only [readDecimal?, htake, hdrop, hne, Bool.false_and, Bool.false_eq_true, if_false]
  by_cases hfraction : n.fraction = []
  · rw [fractionText, if_pos hfraction, List.nil_append]
    split
    · exact absurd rfl (hend '.' rfl).2
    · rw [hexponent, decimal, hfraction]
      rfl
  · rw [fractionText, if_neg hfraction, List.cons_append]
    simp only [htake', hdrop', hexponent, Option.map_some]
    rfl

/-- A numeral is a sign, a digit and what follows it. -/
theorem SpelledBy.exists_digit {t : List Char} (h : n.SpelledBy t) :
    ∃ d cs, isDigit d = true ∧ t = signText n.negative ++ d :: cs := by
  cases h with
  | @mk t hn ht =>
    obtain ⟨d, ds, hwhole⟩ := List.exists_cons_of_ne_nil hn.whole_ne_nil
    refine ⟨d, ds ++ fractionText n.fraction ++ t, hn.whole d ?_, ?_⟩
    · rw [hwhole]
      exact List.mem_cons_self ..
    · simp only [hwhole, List.append_assoc, List.cons_append]

/-- An exponent is spelled with digits and four other characters. -/
theorem ExponentSpelledBy.isDigit_or_mem {e : Option (Bool × List Char)} {t : List Char}
    (h : ExponentSpelledBy e t) {c : Char} (hc : c ∈ t) :
    isDigit c = true ∨ c ∈ ['-', '+', '.', 'e', 'E'] := by
  cases h with
  | none => cases hc
  | @some mark negative sign ds hmark hsign hne hds =>
    simp only [List.mem_cons, List.mem_append] at hc
    rcases hc with rfl | hc | hc
    · rcases hmark with rfl | rfl <;> decide
    · have hsigns : c = '-' ∨ c = '+' := by
        rcases hsign with rfl | ⟨rfl, -⟩
        · split_ifs at hc
          · exact Or.inl (List.mem_singleton.1 hc)
          · exact Or.inr (List.mem_singleton.1 hc)
        · cases hc
      rcases hsigns with rfl | rfl <;> decide
    · exact Or.inl (hds c hc)

/-- The characters of a numeral are digits, signs, a point and the mark of an exponent. -/
theorem SpelledBy.isDigit_or_mem {t : List Char} (h : n.SpelledBy t) {c : Char} (hc : c ∈ t) :
    isDigit c = true ∨ c ∈ ['-', '+', '.', 'e', 'E'] := by
  cases h with
  | @mk t hn ht =>
    simp only [List.mem_append, or_assoc] at hc
    rcases hc with hc | hc | hc | hc
    · rw [signText] at hc
      split_ifs at hc
      · rw [List.mem_singleton.1 hc]
        decide
      · cases hc
    · exact Or.inl (hn.whole c hc)
    · rw [fractionText] at hc
      split_ifs at hc
      · cases hc
      · rcases List.mem_cons.1 hc with rfl | hc
        · decide
        · exact Or.inl (hn.fraction c hc)
    · exact ht.isDigit_or_mem hc

/-- **A numeral is read as the decimal of all its digits.** -/
theorem SpelledBy.readFloat?_eq {t : List Char} (h : n.SpelledBy t) :
    Number.readFloat? t = some (.ofDecimal n.negative n.decimal.digits n.decimal.exponent) := by
  cases h with
  | @mk t hn ht =>
    obtain ⟨d, ds, hwhole⟩ := List.exists_cons_of_ne_nil hn.whole_ne_nil
    have hd := hn.whole d (by rw [hwhole]; exact List.mem_cons_self ..)
    have hread := hn.readDecimal?_eq ht n.negative
    have hunsigned := splitSign_digits hn.whole (fractionText n.fraction ++ t) hn.whole_ne_nil
    have hsign : splitSign (signText n.negative ++ n.whole ++ fractionText n.fraction ++ t) =
        (n.negative, n.whole ++ (fractionText n.fraction ++ t)) := by
      rw [List.append_assoc, List.append_assoc]
      cases n.negative with
      | true => rfl
      | false => exact hunsigned
    rw [← hread]
    rw [hwhole, List.cons_append] at hsign ⊢
    exact readFloat?_of_splitSign hsign hd

/-! ### The value of the two notations -/

/-- A numeral in the plain notation has the sign that it was given. -/
theorem negative_plain (negative : Bool) (ds : List Char) (place : ℤ) :
    (plain negative ds place).negative = negative := by
  simp only [plain]
  split_ifs <;> rfl

/-- Digits with the first one at a place have the same value with and without a point. -/
theorem toRat_decimal_plain (negative : Bool) (ds : List Char) (place : ℤ) :
    (plain negative ds place).decimal.toRat = ofDigits ds * pow10 (place + 1 - ds.length) := by
  rw [plain]
  simp only
  split_ifs with hplace hlength
  -- the point stands before the digits, behind them, or among them
  · have hdigits : ofDigits (['0'] ++ (List.replicate (-place - 1).toNat '0' ++ ds)) =
        ofDigits ds := by
      rw [← List.append_assoc]
      exact ofDigits_zeros_append ((-place - 1).toNat + 1) ds
    simp only [decimal, Decimal.toRat, hdigits, power, List.length_append, List.length_replicate]
    congr 2
    omega
  · have hzeros : ds ++ List.replicate (place.toNat + 1 - ds.length) '0' ++ ['0'] =
        ds ++ List.replicate (place.toNat + 1 - ds.length + 1) '0' := by
      rw [List.replicate_succ', List.append_assoc]
    have hzero : ofDigits (List.replicate (place.toNat + 1 - ds.length + 1) '0') = 0 := by
      have hnone := ofDigits_zeros_append (place.toNat + 1 - ds.length + 1) []
      rwa [List.append_nil] at hnone
    have hpower : ((10 : ℚ) ^ (place.toNat + 1 - ds.length + 1)) * pow10 (0 - (1 : ℕ)) =
        pow10 (place + 1 - ds.length) := by
      rw [← zpow_natCast, ← pow10_eq_zpow, ← pow10_add]
      congr 1
      omega
    simp only [decimal, Decimal.toRat, power, hzeros, ofDigits_append, hzero, add_zero,
      List.length_replicate, List.length_singleton]
    push_cast at hpower ⊢
    rw [mul_assoc, hpower]
  · simp only [decimal, Decimal.toRat, power, List.take_append_drop, List.length_drop]
    congr 2
    omega

/-- A numeral in the scientific notation has the value of its digits at their place. -/
theorem toRat_decimal_scientific (negative : Bool) (hne : ds ≠ []) (place : ℤ) :
    (scientific negative ds place).decimal.toRat =
      ofDigits ds * pow10 (place + 1 - ds.length) := by
  have hlength := List.length_pos_iff.2 hne
  simp only [scientific, decimal, Decimal.toRat, power, List.take_append_drop, List.length_drop,
    ofDigits_decimalDigits]
  congr 2
  simp only [decide_eq_true_eq]
  split_ifs with hplace <;> omega

end Numeral
end Json

namespace FloatLayout

open Json (Numeral)

variable {layout : FloatLayout} {m : ℕ} {e : ℤ}

/-- Digits with an exponent are a numeral, when a positive exponent is marked with a plus or with
nothing. -/
theorem spelledBy_scientific
    (hsign : layout.exponentSign.toList = [] ∨ layout.exponentSign.toList = ['+'])
    {negative : Bool} {ds : List Char} {place : ℤ}
    (hn : (Numeral.scientific negative ds place).WellFormed) :
    (Numeral.scientific negative ds place).SpelledBy
      (Numeral.signText negative ++ layout.scientific ds place) := by
  have hmark : (if 0 ≤ place then layout.exponentSign.toList else ['-']) =
        (if decide (place < 0) = true then ['-'] else ['+']) ∨
      (if 0 ≤ place then layout.exponentSign.toList else ['-']) = [] ∧
        decide (place < 0) = false := by
    rcases lt_or_ge place 0 with hplace | hplace
    · left
      rw [if_neg hplace.not_ge, if_pos (decide_eq_true hplace)]
    · rw [if_pos hplace, decide_eq_false hplace.not_gt]
      rcases hsign with hsign | hsign
      · exact Or.inr ⟨hsign, rfl⟩
      · exact Or.inl hsign
  have hspelled := Numeral.SpelledBy.mk hn (.some (Or.inl rfl) hmark
    (decimalDigits_ne_nil place.natAbs) fun c hc => isDigit_of_mem_decimalDigits hc)
  simpa only [Numeral.scientific, scientific, Numeral.fractionText_drop_one, List.append_assoc,
    List.cons_append, List.nil_append] using hspelled

/-- The place of its first digit tells the value of a decimal. -/
theorem toRat_eq_ofDigits (d : Decimal) :
    d.toRat = ofDigits (decimalDigits d.digits) *
      pow10 (d.exponent + ((decimalDigits d.digits).length : ℤ) - 1 + 1 -
        (decimalDigits d.digits).length) := by
  rw [ofDigits_decimalDigits, sub_add_cancel, add_sub_cancel_right]
  rfl

/-- **A finite number is written as a numeral of the value of its shortest decimal.** -/
theorem exists_spelledBy_write
    (hsign : layout.exponentSign.toList = [] ∨ layout.exponentSign.toList = ['+'])
    (negative : Bool) (h : Canonical m e) :
    ∃ n : Numeral, n.SpelledBy (layout.write (.finite negative m e h)).toList ∧
      n.negative = negative ∧
      n.decimal.toRat = if m = 0 then 0 else (Decimal.shortest m e).toRat := by
  have hminus : (if negative = true then ['-'] else []) = Numeral.signText negative := rfl
  simp only [write, hminus]
  split_ifs with hm hplace
  · refine ⟨⟨negative, ['0'], ['0'], none⟩, ?_, rfl, ?_⟩
    · have hzero := Numeral.wellFormed_ofFinite negative 0 e
      rw [Numeral.ofFinite, if_pos rfl] at hzero
      have hspelled := hzero.spelledBy_text
      rw [String.toList_ofList]
      simpa [Numeral.text, Numeral.fractionText, Numeral.exponentText] using hspelled
    · have hdigits : ofDigits (['0'] ++ ['0']) = 0 := by decide
      rw [Numeral.decimal, Decimal.toRat, hdigits, Nat.cast_zero, zero_mul]
  all_goals
    rw [String.toList_ofList]
    have hne := decimalDigits_ne_nil (Decimal.shortest m e).digits
    have hzero := head?_decimalDigits (Decimal.digits_shortest_ne_zero hm e)
    have hds : ∀ c ∈ decimalDigits (Decimal.shortest m e).digits, isDigit c = true :=
      fun c hc => isDigit_of_mem_decimalDigits hc
    rw [toRat_eq_ofDigits (Decimal.shortest m e)]
    generalize (Decimal.shortest m e).exponent +
      ((decimalDigits (Decimal.shortest m e).digits).length : ℤ) - 1 = place at *
    generalize decimalDigits (Decimal.shortest m e).digits = ds at *
  · refine ⟨Numeral.plain negative ds place, ?_, Numeral.negative_plain negative ds place,
      Numeral.toRat_decimal_plain negative ds place⟩
    have hspelled := (Numeral.wellFormed_plain negative hne hds hzero place).spelledBy_text
    rwa [Numeral.text_plain negative hne] at hspelled
  · exact ⟨Numeral.scientific negative ds place,
      spelledBy_scientific hsign (Numeral.wellFormed_scientific negative hne hds hzero place), rfl,
      Numeral.toRat_decimal_scientific negative hne place⟩

/-- **A finite number is read from its text.** -/
theorem readFloat?_write
    (hsign : layout.exponentSign.toList = [] ∨ layout.exponentSign.toList = ['+'])
    {x : Binary64} (hx : x.isFinite = true) :
    Number.readFloat? (layout.write x).toList = some x := by
  cases x with
  | nan => cases hx
  | infinite negative => cases hx
  | finite negative m e h =>
    obtain ⟨n, hspelled, hnegative, hvalue⟩ := exists_spelledBy_write hsign negative h
    rw [hspelled.readFloat?_eq, hnegative]
    congr 1
    split_ifs at hvalue with hm
    · subst hm
      obtain rfl : e = -1074 := h.2.2.2.resolve_left (by decide)
      have hdigits : n.decimal.digits = 0 := by
        have hpower := (pow10_pos n.decimal.exponent).ne'
        exact_mod_cast (mul_eq_zero.1 hvalue).resolve_right hpower
      rw [hdigits, Binary64.ofDecimal, if_pos rfl, Binary64.zero]
    · have hreads := Decimal.readsBackAs_shortest hm h
      rw [← hvalue] at hreads
      exact Binary64.ofDecimal_of_readsBackAs negative hm h hreads

end FloatLayout
end CourtDocket
