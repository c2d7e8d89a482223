/-
# Numbers are read as they are written

A numeral has one text in the layout that numbers are written in (`Numeral.text`).  When it keeps
to the grammar (`Numeral.WellFormed`) and nothing follows that would continue it (`EndsNumber`),
`Numeral.split` finds it at the start of a text and leaves what follows
(`Numeral.SpelledBy.split`); so it does when the exponent has another mark or no sign.

Every number that is written is written as such a numeral: an integer as its digits, whose value
is the integer again (`Numeral.value_ofInt`), and a finite binary64 number in one of two notations
(`Numeral.text_ofFinite`).
-/

import CourtDocket.Json.Basic
import CourtDocket.Json.Numeral
import CourtDocket.Proofs.Number.Decimal
import CourtDocket.Proofs.Number.Shortest

namespace CourtDocket
namespace Json

open Number FloatLayout

/-- Whether a text starts with nothing that a digit before it would make part of a number. -/
def EndsNumber (s : List Symbol) : Prop :=
  ∀ c, s.head? = some (.char c) → isDigit c = false ∧ c ≠ '.' ∧ c ≠ 'e' ∧ c ≠ 'E'

namespace Numeral

variable {n : Numeral} {ds : List Char} {rest : List Symbol}

/-- Whether an exponent is written as a text: as none, or as a mark, a sign that may be left out
when it is a plus, and digits. -/
inductive ExponentSpelledBy : Option (Bool × List Char) → List Char → Prop where
  /-- There is no exponent. -/
  | none : ExponentSpelledBy none []
  /-- There is one. -/
  | some {mark : Char} {negative : Bool} {sign ds : List Char} (hmark : mark = 'e' ∨ mark = 'E')
      (hsign : sign = (if negative then ['-'] else ['+']) ∨ sign = [] ∧ negative = false)
      (hne : ds ≠ []) (hds : ∀ c ∈ ds, isDigit c = true) :
      ExponentSpelledBy (some (negative, ds)) (mark :: (sign ++ ds))

/-- The text of an exponent. -/
def exponentText : Option (Bool × List Char) → List Char
  | none => []
  | some (negative, ds) => 'e' :: (if negative then '-' else '+') :: ds

/-- The text of a fraction. -/
def fractionText (ds : List Char) : List Char :=
  if ds = [] then [] else '.' :: ds

/-- The text of a sign. -/
def signText (negative : Bool) : List Char :=
  if negative then ['-'] else []

/-- The text of a numeral. -/
def text (n : Numeral) : List Char :=
  signText n.negative ++ n.whole ++ fractionText n.fraction ++ exponentText n.exponent

/-- Whether a numeral keeps to the grammar. -/
structure WellFormed (n : Numeral) : Prop where
  /-- There are digits before the point. -/
  whole_ne_nil : n.whole ≠ []
  /-- They are digits. -/
  whole : ∀ c ∈ n.whole, isDigit c = true
  /-- There is no needless zero. -/
  zero : n.whole.head? = some '0' → n.whole = ['0']
  /-- What follows the point are digits. -/
  fraction : ∀ c ∈ n.fraction, isDigit c = true
  /-- The exponent has digits. -/
  exponent : ∀ e, n.exponent = some e → e.2 ≠ [] ∧ ∀ c ∈ e.2, isDigit c = true

/-- All digits at the start of a text are read. -/
theorem digits_append (hds : ∀ c ∈ ds, isDigit c = true)
    (hrest : ∀ c, rest.head? = some (.char c) → isDigit c = false) :
    digits (ds.map Symbol.char ++ rest) = (ds, rest) := by
  induction ds with
  | nil =>
    match rest with
    | [] => rfl
    | .stray _ :: _ => rfl
    | .char c :: r => simp [digits, hrest c rfl]
  | cons c ds ih =>
    have hc := hds c (List.mem_cons_self ..)
    have htail := ih fun d hd => hds d (List.mem_cons_of_mem _ hd)
    simp [digits, hc, htail]

/-- A digit at least is read where there is one. -/
theorem someDigits_append (hne : ds ≠ []) (hds : ∀ c ∈ ds, isDigit c = true)
    (hrest : ∀ c, rest.head? = some (.char c) → isDigit c = false) :
    someDigits (ds.map Symbol.char ++ rest) = .ok (ds, rest) := by
  rw [someDigits, digits_append hds hrest]
  cases ds with
  | nil => exact absurd rfl hne
  | cons c ds => rfl

/-- The exponent is read, if there is one, up to what cannot continue a number. -/
theorem splitExponent_append {e : Option (Bool × List Char)} {t : List Char}
    (h : ExponentSpelledBy e t) (hrest : EndsNumber rest) :
    splitExponent (t.map Symbol.char ++ rest) = .ok (e, rest) := by
  cases h with
  | none =>
    match rest with
    | [] => rfl
    | .stray _ :: _ => rfl
    | .char c :: r =>
      obtain ⟨-, -, hlower, hupper⟩ := hrest c rfl
      simp [splitExponent, hlower, hupper]
  | @some mark negative sign ds hmark hsign hne hds =>
    have hsome := someDigits_append hne hds fun c hc => (hrest c hc).1
    have hsplit : splitExponentSign ((sign ++ ds).map Symbol.char ++ rest) =
        (negative, ds.map Symbol.char ++ rest) := by
      rcases hsign with rfl | ⟨rfl, rfl⟩
      · cases negative <;> rfl
      -- without a sign the exponent starts with a digit, which is neither of the signs
      · obtain ⟨d, ds, rfl⟩ := List.exists_cons_of_ne_nil hne
        have hd := hds d (List.mem_cons_self ..)
        rw [List.nil_append, List.map_cons, List.cons_append, splitExponentSign]
        · rintro r hplus
          obtain rfl : d = '+' := Symbol.char.inj (List.cons.inj hplus).1
          revert hd
          decide
        · rintro r hminus
          obtain rfl : d = '-' := Symbol.char.inj (List.cons.inj hminus).1
          revert hd
          decide
    rw [List.map_cons, List.cons_append, splitExponent]
    simp only [if_pos hmark, hsplit, hsome, bind, Except.bind]
    rfl

/-- The digits behind the point are read, if there is a point, up to what is none. -/
theorem splitFraction_append (hds : ∀ c ∈ ds, isDigit c = true)
    (hrest : ∀ c, rest.head? = some (.char c) → isDigit c = false ∧ c ≠ '.') :
    splitFraction ((fractionText ds).map Symbol.char ++ rest) = .ok (ds, rest) := by
  by_cases hne : ds = []
  · subst hne
    match rest with
    | [] => rfl
    | .stray _ :: _ => rfl
    | .char c :: r =>
      have hdot := (hrest c rfl).2
      simp [fractionText, splitFraction, hdot]
  · rw [fractionText, if_neg hne]
    exact someDigits_append hne hds fun c hc => (hrest c hc).1

/-- The digits before the point are read: a zero stands alone. -/
theorem splitWhole_append (hne : ds ≠ []) (hds : ∀ c ∈ ds, isDigit c = true)
    (hzero : ds.head? = some '0' → ds = ['0'])
    (hrest : ∀ c, rest.head? = some (.char c) → isDigit c = false) :
    splitWhole (ds.map Symbol.char ++ rest) = .ok (ds, rest) := by
  rw [splitWhole, someDigits_append hne hds hrest]
  simp only [bind, Except.bind]
  split
  · rename_i d ds'
    exact absurd (hzero rfl) (by simp)
  · rfl

/-- What follows the digits after the point is neither a digit nor a point. -/
theorem head?_exponentSpelledBy {e : Option (Bool × List Char)} {t : List Char}
    (h : ExponentSpelledBy e t) (hrest : EndsNumber rest) (c : Char)
    (hc : (t.map Symbol.char ++ rest).head? = some (.char c)) : isDigit c = false ∧ c ≠ '.' := by
  cases h with
  | none => exact ⟨(hrest c hc).1, (hrest c hc).2.1⟩
  | @some mark _ _ _ hmark =>
    obtain rfl : mark = c := Symbol.char.inj (Option.some.inj hc)
    rcases hmark with rfl | rfl <;> decide

/-- What follows the digits before the point is not a digit. -/
theorem head?_fractionText (ds : List Char)
    (hrest : ∀ c, rest.head? = some (.char c) → isDigit c = false) (c : Char)
    (hc : ((fractionText ds).map Symbol.char ++ rest).head? = some (.char c)) :
    isDigit c = false := by
  rw [fractionText] at hc
  split_ifs at hc
  · exact hrest c hc
  · obtain rfl : '.' = c := Symbol.char.inj (Option.some.inj hc)
    decide

/-- A digit is no sign. -/
theorem ne_minus_of_isDigit {c : Char} (h : isDigit c = true) : c ≠ '-' := by
  rintro rfl
  revert h
  decide

/-- Whether a numeral is written as a text. -/
inductive SpelledBy (n : Numeral) : List Char → Prop where
  | mk {t : List Char} (hn : n.WellFormed) (ht : ExponentSpelledBy n.exponent t) :
      n.SpelledBy (signText n.negative ++ n.whole ++ fractionText n.fraction ++ t)

/-- A numeral that keeps to the grammar is spelled by its own text. -/
theorem WellFormed.spelledBy_text (h : n.WellFormed) : n.SpelledBy n.text := by
  refine .mk h ?_
  cases hexponent : n.exponent with
  | none => exact .none
  | some e =>
    obtain ⟨negative, ds⟩ := e
    obtain ⟨hne, hds⟩ := h.exponent _ hexponent
    cases negative with
    | true => exact .some (Or.inl rfl) (Or.inl rfl) hne hds
    | false => exact .some (Or.inl rfl) (Or.inl rfl) hne hds

/-- A numeral starts with a minus or a digit. -/
theorem SpelledBy.exists_cons {t : List Char} (h : n.SpelledBy t) :
    ∃ c cs, t = c :: cs ∧ (c = '-' ∨ isDigit c = true) := by
  obtain ⟨negative, whole, fraction, exponent⟩ := n
  obtain ⟨hn, -⟩ := h
  obtain ⟨c, cs, rfl⟩ := List.exists_cons_of_ne_nil hn.whole_ne_nil
  cases negative with
  | true => exact ⟨_, _, rfl, Or.inl rfl⟩
  | false => exact ⟨_, _, rfl, Or.inr (hn.whole c (List.mem_cons_self ..))⟩

/-- **A numeral is found at the start of a text.** -/
theorem SpelledBy.split {t : List Char} (h : n.SpelledBy t) (hrest : EndsNumber rest) :
    split (t.map Symbol.char ++ rest) = .ok (n, rest) := by
  obtain ⟨negative, whole, fraction, exponent⟩ := n
  obtain ⟨hn, hspelled⟩ := h
  have hexponent := splitExponent_append hspelled hrest
  have hpoint := head?_exponentSpelledBy hspelled hrest
  have hfraction := splitFraction_append hn.fraction hpoint
  have hwhole := splitWhole_append hn.whole_ne_nil hn.whole hn.zero
    (head?_fractionText fraction fun c hc => (hpoint c hc).1)
  cases negative with
  | true =>
    simp only [signText, if_true, List.map_append, List.append_assoc, List.map_cons,
      List.cons_append, List.nil_append, Numeral.split, hwhole, hfraction, hexponent, bind,
      Except.bind]
    rfl
  | false =>
    obtain ⟨c, cs, rfl⟩ := List.exists_cons_of_ne_nil hn.whole_ne_nil
    have hminus := ne_minus_of_isDigit (hn.whole c (List.mem_cons_self ..))
    simp only [List.map_cons, List.cons_append] at hwhole
    simp only [signText, List.map_append, List.append_assoc, List.map_cons, List.cons_append,
      Numeral.split, Bool.false_eq_true, if_false, List.nil_append]
    split
    · rename_i heq
      simp at heq
      exact absurd heq.1 hminus
    · simp only [hwhole, hfraction, hexponent, bind, Except.bind]
      rfl

/-! ### Integers -/

/-- The numeral of an integer. -/
def ofInt (i : ℤ) : Numeral :=
  ⟨decide (i < 0), decimalDigits i.natAbs, [], none⟩

/-- The numeral of an integer has the text of the integer. -/
theorem text_ofInt (i : ℤ) : (ofInt i).text = intText i := by
  simp [text, ofInt, intText, signText, fractionText, exponentText]

/-- The numeral of an integer keeps to the grammar. -/
theorem wellFormed_ofInt (i : ℤ) : (ofInt i).WellFormed where
  whole_ne_nil := decimalDigits_ne_nil _
  whole _ hc := isDigit_of_mem_decimalDigits hc
  zero h := by
    by_cases hi : i.natAbs = 0
    · simp only [ofInt, hi]
      rfl
    · exact absurd h (head?_decimalDigits hi)
  fraction _ hc := by cases hc
  exponent _ he := by cases he

/-- **The numeral of an integer has it as its value**, when it fits into 64 bits. -/
theorem value_ofInt {i : ℤ} (hlow : -9223372036854775808 ≤ i)
    (hhigh : i ≤ 18446744073709551615) : (ofInt i).value = .ok (.int i) := by
  have hrange : (if decide (i < 0) = true then 1 ≤ i.natAbs ∧ i.natAbs ≤ 9223372036854775808
      else i.natAbs ≤ 18446744073709551615) := by
    split_ifs with hneg <;> simp only [decide_eq_true_eq] at hneg <;> omega
  have hvalue : (if decide (i < 0) = true then -(i.natAbs : ℤ) else i.natAbs) = i := by
    split_ifs with hneg <;> simp only [decide_eq_true_eq] at hneg <;> omega
  rw [value]
  simp only [ofInt, ofDigits_decimalDigits]
  rw [if_pos ⟨trivial, trivial, hrange⟩, hvalue]

/-! ### Binary64 numbers -/

/-- The numeral of digits with the first one at a place, without an exponent. -/
def plain (negative : Bool) (ds : List Char) (place : ℤ) : Numeral :=
  if place < 0 then ⟨negative, ['0'], List.replicate (-place - 1).toNat '0' ++ ds, none⟩
  else
    let whole := place.toNat + 1
    if ds.length ≤ whole then
      ⟨negative, ds ++ List.replicate (whole - ds.length) '0', ['0'], none⟩
    else ⟨negative, ds.take whole, ds.drop whole, none⟩

/-- The numeral of digits with the first one at a place, with an exponent. -/
def scientific (negative : Bool) (ds : List Char) (place : ℤ) : Numeral :=
  ⟨negative, ds.take 1, ds.drop 1, some (decide (place < 0), decimalDigits place.natAbs)⟩

/-- The numeral of a finite number. -/
def ofFinite (negative : Bool) (m : ℕ) (e : ℤ) : Numeral :=
  if m = 0 then ⟨negative, ['0'], ['0'], none⟩
  else
    let d := Decimal.shortest m e
    let ds := decimalDigits d.digits
    let place := d.exponent + (ds.length : ℤ) - 1
    if FloatLayout.json.plainFrom ≤ place ∧ place ≤ FloatLayout.json.plainTo then
      plain negative ds place
    else scientific negative ds place

/-- The text of the plain notation, behind its sign. -/
theorem text_plain (negative : Bool) (hne : ds ≠ []) (place : ℤ) :
    (plain negative ds place).text = signText negative ++ FloatLayout.plain ds place := by
  rw [plain, FloatLayout.plain]
  simp only
  split_ifs with hplace hlength
  · simp [text, fractionText, exponentText, hne]
  · simp [text, fractionText, exponentText]
  · have hdrop : ds.drop (place.toNat + 1) ≠ [] := by
      rw [ne_eq, List.drop_eq_nil_iff]
      exact hlength
    simp [text, fractionText, exponentText, hdrop]

/-- The digits behind the first one stand behind the point, if there are any. -/
theorem fractionText_drop_one (ds : List Char) :
    fractionText (ds.drop 1) = if ds.length ≤ 1 then [] else '.' :: ds.drop 1 := by
  rw [fractionText]
  exact if_congr List.drop_eq_nil_iff rfl rfl

/-- The text of the scientific notation, behind its sign. -/
theorem text_scientific (negative : Bool) (place : ℤ) :
    (scientific negative ds place).text =
      signText negative ++ FloatLayout.json.scientific ds place := by
  have hexponent : exponentText (some (decide (place < 0), decimalDigits place.natAbs)) =
      ['e'] ++ (if 0 ≤ place then FloatLayout.json.exponentSign.toList else ['-']) ++
        decimalDigits place.natAbs := by
    rcases lt_or_ge place 0 with h | h
    · rw [decide_eq_true h, if_neg (by omega)]
      rfl
    · rw [decide_eq_false (by omega), if_pos h]
      rfl
  simp only [scientific, text, FloatLayout.scientific, fractionText_drop_one, hexponent,
    List.append_assoc]

/-- The numeral of a finite number has the text of the number. -/
theorem text_ofFinite (negative : Bool) (m : ℕ) (e : ℤ) (h : Canonical m e) :
    (ofFinite negative m e).text = floatText (.finite negative m e h) := by
  have hsign : (if negative = true then ['-'] else []) = signText negative := rfl
  simp only [ofFinite, floatText, FloatLayout.write, hsign]
  split_ifs with hm hplace
  · rw [String.toList_ofList]
    simp [text, fractionText, exponentText]
  · rw [String.toList_ofList, text_plain negative (decimalDigits_ne_nil _)]
  · rw [String.toList_ofList, text_scientific]

/-- A numeral in the plain notation keeps to the grammar. -/
theorem wellFormed_plain (negative : Bool) (hne : ds ≠ []) (hds : ∀ c ∈ ds, isDigit c = true)
    (hzero : ds.head? ≠ some '0') (place : ℤ) : (plain negative ds place).WellFormed := by
  rw [plain]
  simp only
  obtain ⟨d, ds, rfl⟩ := List.exists_cons_of_ne_nil hne
  split_ifs with hplace hlength
  · exact
      { whole_ne_nil := by simp
        whole := by simp [isDigit_zero]
        zero := fun _ => rfl
        fraction := fun c hc => (List.mem_append.1 hc).elim isDigit_of_mem_zeros (hds c)
        exponent := fun _ he => by cases he }
  · exact
      { whole_ne_nil := by simp
        whole := fun c hc => (List.mem_append.1 hc).elim (hds c) isDigit_of_mem_zeros
        zero := fun h => absurd h hzero
        fraction := by simp [isDigit_zero]
        exponent := fun _ he => by cases he }
  · exact
      { whole_ne_nil := by simp
        whole := fun c hc => hds c (List.mem_of_mem_take hc)
        zero := fun h => absurd h hzero
        fraction := fun c hc => hds c (List.mem_of_mem_drop hc)
        exponent := fun _ he => by cases he }

/-- A numeral in the scientific notation keeps to the grammar. -/
theorem wellFormed_scientific (negative : Bool) (hne : ds ≠ [])
    (hds : ∀ c ∈ ds, isDigit c = true) (hzero : ds.head? ≠ some '0') (place : ℤ) :
    (scientific negative ds place).WellFormed := by
  obtain ⟨d, ds, rfl⟩ := List.exists_cons_of_ne_nil hne
  exact
    { whole_ne_nil := by simp [scientific]
      whole := fun c hc => hds c (List.mem_of_mem_take hc)
      zero := fun h => absurd h hzero
      fraction := fun c hc => hds c (List.mem_of_mem_drop hc)
      exponent := fun e he => by
        obtain rfl := Option.some.inj he
        exact ⟨decimalDigits_ne_nil _, fun c hc => isDigit_of_mem_decimalDigits hc⟩ }

/-- The numeral of a finite number keeps to the grammar. -/
theorem wellFormed_ofFinite (negative : Bool) (m : ℕ) (e : ℤ) :
    (ofFinite negative m e).WellFormed := by
  simp only [ofFinite]
  split_ifs with hm hplace
  · exact
      { whole_ne_nil := by simp
        whole := by simp [isDigit_zero]
        zero := fun _ => rfl
        fraction := by simp [isDigit_zero]
        exponent := fun _ he => by cases he }
  · exact wellFormed_plain negative (decimalDigits_ne_nil _)
      (fun c hc => isDigit_of_mem_decimalDigits hc)
      (head?_decimalDigits (Decimal.digits_shortest_ne_zero hm e)) _
  · exact wellFormed_scientific negative (decimalDigits_ne_nil _)
      (fun c hc => isDigit_of_mem_decimalDigits hc)
      (head?_decimalDigits (Decimal.digits_shortest_ne_zero hm e)) _

end Numeral
end Json
end CourtDocket
