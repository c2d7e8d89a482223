/-
# Plain scalars are read as they are written

An integer is written as decimal digits without a needless zero, which no base but ten reads
(`readInteger?_toString`), and every binary64 number has a text: the words of what is not finite
are its own (`readFloat?_write`).
-/

import CourtDocket.Proofs.Number.FloatText
import CourtDocket.Yaml.Value

namespace CourtDocket
namespace Yaml

open Number FloatLayout

variable {ds : List Char}

/-! ### Integers -/

/-- The text of an integer is its sign and its digits. -/
theorem toList_toString (i : ℤ) :
    (toString i).toList = (if i < 0 then ['-'] else []) ++ decimalDigits i.natAbs := by
  cases i with
  | ofNat n =>
    rw [if_neg (show ¬Int.ofNat n < 0 from (Int.natCast_nonneg n).not_gt)]
    show (Nat.repr n).toList = _
    rw [Nat.repr, String.toList_ofList]
    rfl
  | negSucc n =>
    rw [if_pos (Int.negSucc_lt_zero n)]
    show ("-" ++ Nat.repr (n + 1)).toList = _
    simp only [Nat.repr, String.toList_append, String.toList_ofList]
    rfl

/-- A decimal digit is the same hexadecimal one. -/
theorem hexDigit?_of_isDigit {c : Char} (h : isDigit c = true) :
    hexDigit? c = some ((digit? c).getD 0) := by
  obtain ⟨d, hd, rfl⟩ := exists_digitChar h
  decide +revert

/-- Digits are read in base ten. -/
theorem readDigits?_ten (hne : ds ≠ []) (hds : ∀ c ∈ ds, isDigit c = true) :
    readDigits? 10 ds = some (ofDigits ds) := by
  have hfold : ∀ (cs : List Char) (n : ℕ), (∀ c ∈ cs, isDigit c = true) →
      cs.foldlM (fun n c => do
        let d ← hexDigit? c
        if d < 10 then some (n * 10 + d) else none) n =
      some (cs.foldl (fun n c => n * 10 + (digit? c).getD 0) n) := by
    intro cs
    induction cs with
    | nil => intro n _; rfl
    | cons c cs ih =>
      intro n hcs
      have hc := hexDigit?_of_isDigit (hcs c (List.mem_cons_self ..))
      have hlt : (digit? c).getD 0 < 10 := Nat.lt_succ_of_le (getD_digit?_le c)
      have htail := ih (n * 10 + (digit? c).getD 0) fun d hd => hcs d (List.mem_cons_of_mem _ hd)
      rw [List.foldlM_cons, hc, List.foldl_cons, ← htail]
      simp only [bind, Option.bind, if_pos hlt]
  simp only [readDigits?, List.isEmpty_iff, if_neg hne]
  exact hfold ds 0 hds

/-- What is no digit is not in the digits of a number. -/
theorem not_mem_decimalDigits {c : Char} (hc : isDigit c = false) (n : ℕ) :
    c ∉ decimalDigits n := by
  intro hmem
  rw [isDigit_of_mem_decimalDigits hmem] at hc
  cases hc

/-- Digits without a needless zero at their start have none. -/
theorem hasNeedlessZero_digits (hds : ∀ c ∈ ds, isDigit c = true)
    (hzero : ds.head? = some '0' → ds = ['0']) : hasNeedlessZero ds = false := by
  have hunsigned : ds.head? ≠ some '-' ∧ ds.head? ≠ some '+' := by
    constructor <;> intro hhead <;> have hsign := hds _ (List.mem_of_mem_head? hhead) <;>
      revert hsign <;> decide
  simp only [hasNeedlessZero, hunsigned, decide_false, Bool.or_self, Bool.false_eq_true, if_false]
  split
  · rename_i d ds'
    exact absurd (hzero rfl) (by simp)
  · rfl

/-- A natural number is read from its digits: no digit is a letter that marks a base. -/
theorem readNatural?_decimalDigits (n : ℕ) : readNatural? (decimalDigits n) = some n := by
  have hdigits := fun c (hc : c ∈ decimalDigits n) => isDigit_of_mem_decimalDigits hc
  have hzero : (decimalDigits n).head? = some '0' → decimalDigits n = ['0'] := by
    intro hhead
    obtain rfl : n = 0 := by_contra fun hn => head?_decimalDigits hn hhead
    rfl
  have hneedless := hasNeedlessZero_digits hdigits hzero
  have hread := readDigits?_ten (decimalDigits_ne_nil n) hdigits
  rw [ofDigits_decimalDigits] at hread
  have hbase : ∀ c, isDigit c = false → ∀ cs, decimalDigits n ≠ '0' :: c :: cs := by
    intro c hc cs hcs
    refine not_mem_decimalDigits hc n ?_
    rw [hcs]
    exact List.mem_cons_of_mem _ (List.mem_cons_self ..)
  rw [readNatural?]
  · rw [hneedless, hread]
    rfl
  · exact hbase 'x' (by decide)
  · exact hbase 'o' (by decide)
  · exact hbase 'b' (by decide)

/-- **An integer is read from its text.** -/
theorem readInteger?_toString (i : ℤ) : readInteger? (toString i).toList = some i := by
  have hread := readNatural?_decimalDigits i.natAbs
  have hsign : ∀ c, isDigit c = false → ∀ cs, decimalDigits i.natAbs ≠ c :: cs := by
    intro c hc cs hcs
    refine not_mem_decimalDigits hc i.natAbs ?_
    rw [hcs]
    exact List.mem_cons_self ..
  rw [toList_toString]
  split_ifs with hi
  · rw [List.singleton_append, readInteger?, hread]
    show some (-(i.natAbs : ℤ)) = some i
    congr 1
    omega
  · rw [List.nil_append, readInteger?, hread]
    · show some (i.natAbs : ℤ) = some i
      congr 1
      omega
    · exact hsign '-' (by decide)
    · exact hsign '+' (by decide)

/-- The text of an integer starts with a minus or a digit. -/
theorem exists_cons_toString (i : ℤ) :
    ∃ c cs, (toString i).toList = c :: cs ∧ (c = '-' ∨ isDigit c = true) := by
  rw [toList_toString]
  split_ifs with hi
  · exact ⟨'-', _, rfl, Or.inl rfl⟩
  · obtain ⟨d, ds, hds⟩ := List.exists_cons_of_ne_nil (decimalDigits_ne_nil i.natAbs)
    refine ⟨d, ds, hds, Or.inr (isDigit_of_mem_decimalDigits (n := i.natAbs) ?_)⟩
    rw [hds]
    exact List.mem_cons_self ..

/-- A text is none of some words when it starts with another character. -/
theorem any_word_eq_false {ws : List String} {c : Char} {cs : List Char}
    (h : ∀ w ∈ ws, w.toList.head? ≠ some c) : (ws.any fun w => w.toList = c :: cs) = false := by
  rw [List.any_eq_false]
  intro w hw hword
  refine h w hw ?_
  rw [of_decide_eq_true hword]
  rfl

/-- A text that starts with a digit is none of some words if no word does. -/
theorem any_word_digit_eq_false {ws : List String} {c : Char} {cs : List Char}
    (hc : isDigit c = true)
    (h : ∀ d < 10, ∀ w ∈ ws, w.toList.head? ≠ some (Nat.digitChar d)) :
    (ws.any fun w => w.toList = c :: cs) = false := by
  obtain ⟨d, hd, rfl⟩ := exists_digitChar hc
  exact any_word_eq_false (h d hd)

/-- No integer spells the word for nothing. -/
theorem spellsNull_toString (i : ℤ) : spellsNull (toString i).toList = false := by
  obtain ⟨c, cs, htext, hc⟩ := exists_cons_toString i
  rw [htext, spellsNull]
  rcases hc with rfl | hc
  · exact any_word_eq_false (by decide)
  · exact any_word_digit_eq_false hc (by decide)

/-! ### Binary64 numbers -/

/-- What starts with a digit, a minus aside, is none of the words for what is not finite. -/
theorem readFloat?_of_digit (negative : Bool) {d : Char} (hd : isDigit d = true)
    (cs : List Char) :
    readFloat? (Json.Numeral.signText negative ++ d :: cs) =
      (Number.readFloat? (Json.Numeral.signText negative ++ d :: cs)).filter
        Binary64.isFinite := by
  have hinfinity : spellsInfinity (d :: cs) = false := any_word_digit_eq_false hd (by decide)
  cases negative with
  | true =>
    have hnan : ([".nan", ".NaN", ".NAN"].any fun w => w.toList = '-' :: d :: cs) = false :=
      any_word_eq_false (by decide)
    have hsigned : spellsInfinity ('-' :: d :: cs) = false := any_word_eq_false (by decide)
    show readFloat? ('-' :: d :: cs) = (Number.readFloat? ('-' :: d :: cs)).filter _
    simp [readFloat?, hnan, hsigned, hinfinity]
  | false =>
    have hnan : ([".nan", ".NaN", ".NAN"].any fun w => w.toList = d :: cs) = false :=
      any_word_digit_eq_false hd (by decide)
    have hplus : d ≠ '+' ∧ d ≠ '-' := by
      constructor <;> rintro rfl <;> revert hd <;> decide
    show readFloat? (d :: cs) = (Number.readFloat? (d :: cs)).filter _
    simp [readFloat?, hnan, hplus, hinfinity]

/-- **A number is read from its text**, also when it is not finite. -/
theorem readFloat?_write (x : Binary64) :
    readFloat? (FloatLayout.yaml.write x).toList = some x := by
  cases x with
  | nan => rfl
  | infinite negative => cases negative <;> rfl
  | finite negative m e h =>
    have hsign : FloatLayout.yaml.exponentSign.toList = [] ∨
        FloatLayout.yaml.exponentSign.toList = ['+'] := Or.inl rfl
    have hread := FloatLayout.readFloat?_write hsign (x := .finite negative m e h) rfl
    obtain ⟨n, hspelled, -, -⟩ := FloatLayout.exists_spelledBy_write hsign negative h
    obtain ⟨d, cs, hd, htext⟩ := hspelled.exists_digit
    rw [htext] at hread ⊢
    rw [readFloat?_of_digit n.negative hd, hread]
    rfl

end Yaml
end CourtDocket
