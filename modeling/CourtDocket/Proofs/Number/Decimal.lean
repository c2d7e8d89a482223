/-
# Whole numbers in base ten

The digits of a number (`FloatLayout.decimalDigits`) are decimal digits, at least one, without a
needless zero at the start, and they write the number (`Number.ofDigits_decimalDigits`).
-/

import CourtDocket.Number.FloatText
import Mathlib.Data.Nat.Digits.Defs

namespace CourtDocket
namespace Number

/-- A digit is a digit of the library. -/
theorem isDigit_eq (c : Char) : isDigit c = c.isDigit := by
  have hiff : ('0' ≤ c ∧ c ≤ '9') ↔ c.isDigit = true := by
    simp only [Char.isDigit, ge_iff_le, Bool.and_eq_true, decide_eq_true_eq]
    exact Iff.rfl
  rw [isDigit, digit?]
  split_ifs with h
  · exact (hiff.1 h).symm
  · exact (Bool.eq_false_iff.2 fun hc => h (hiff.2 hc)).symm

/-- The value of a digit is its distance from zero. -/
theorem getD_digit?_of_isDigit {c : Char} (h : isDigit c = true) :
    (digit? c).getD 0 = c.toNat - '0'.toNat := by
  rw [isDigit, digit?] at h
  rw [digit?]
  split_ifs at h ⊢
  · rfl
  · cases h

/-- There are ten digits. -/
theorem exists_digitChar {c : Char} (hc : isDigit c = true) :
    ∃ d < 10, c = Nat.digitChar d := by
  have hle : '0'.toNat ≤ c.toNat ∧ c.toNat ≤ '9'.toNat := by
    rw [isDigit, digit?] at hc
    split_ifs at hc with hrange
    · exact hrange
    · cases hc
  have hcode : '0'.toNat = 48 ∧ '9'.toNat = 57 := by decide
  refine ⟨c.toNat - 48, by omega, Char.toNat_inj.1 ?_⟩
  have hvalue := Nat.toNat_digitChar_of_lt_ten (show c.toNat - 48 < 10 by omega)
  omega

/-- Zero is a digit. -/
theorem isDigit_zero : isDigit '0' = true := by
  decide

/-- Zeros are digits. -/
theorem isDigit_of_mem_zeros {k : ℕ} {c : Char} (hc : c ∈ List.replicate k '0') :
    isDigit c = true := by
  rw [List.eq_of_mem_replicate hc]
  exact isDigit_zero

/-- No digit has a value above nine. -/
theorem getD_digit?_le (c : Char) : (digit? c).getD 0 ≤ 9 := by
  rw [digit?]
  split_ifs with h
  · have hnine : c.toNat ≤ '9'.toNat := h.2
    have hcode : '0'.toNat = 48 ∧ '9'.toNat = 57 := by decide
    rw [Option.getD_some]
    omega
  · exact Nat.zero_le _

/-- What stands before a digit counts for ten. -/
theorem foldl_digits (ds : List Char) (n : ℕ) :
    ds.foldl (fun n c => n * 10 + (digit? c).getD 0) n = n * 10 ^ ds.length + ofDigits ds := by
  induction ds generalizing n with
  | nil => simp [ofDigits]
  | cons c ds ih =>
    rw [ofDigits, List.foldl_cons, List.foldl_cons, ih, ih, List.length_cons, Nat.pow_succ']
    ring

/-- Digits in front count for a power of ten more with every digit behind. -/
theorem ofDigits_append (ds es : List Char) :
    ofDigits (ds ++ es) = ofDigits ds * 10 ^ es.length + ofDigits es := by
  rw [ofDigits, List.foldl_append, foldl_digits]
  rfl

/-- Zeros at the start of a number change nothing. -/
theorem ofDigits_zeros_append (k : ℕ) (ds : List Char) :
    ofDigits (List.replicate k '0' ++ ds) = ofDigits ds := by
  induction k with
  | zero => rfl
  | succ k ih =>
    rw [List.replicate_succ, List.cons_append]
    exact ih

/-- A number is smaller than the next power of ten. -/
theorem ofDigits_lt {ds : List Char} (hds : ∀ c ∈ ds, isDigit c = true) :
    ofDigits ds < 10 ^ ds.length := by
  induction ds with
  | nil => decide
  | cons c ds ih =>
    have hrest := ih fun d hd => hds d (List.mem_cons_of_mem _ hd)
    have hdigit : ofDigits [c] * 10 ^ ds.length ≤ 9 * 10 ^ ds.length := by
      refine Nat.mul_le_mul_right _ ?_
      rw [ofDigits, List.foldl_cons, List.foldl_nil, Nat.zero_mul, Nat.zero_add]
      exact getD_digit?_le c
    have happend := ofDigits_append [c] ds
    rw [List.singleton_append] at happend
    rw [happend, List.length_cons, Nat.pow_succ']
    omega

open FloatLayout

/-- What a number is written with are digits. -/
theorem isDigit_of_mem_decimalDigits {n : ℕ} {c : Char} (h : c ∈ decimalDigits n) :
    isDigit c = true := by
  rw [isDigit_eq]
  exact Nat.isDigit_of_mem_toDigits (by decide) (by decide) h

/-- A number is written with a digit at least. -/
theorem decimalDigits_ne_nil (n : ℕ) : decimalDigits n ≠ [] :=
  Nat.toDigits_ne_nil

/-- Whether a text is one or more decimal digits. -/
def IsDigits (ds : List Char) : Prop :=
  ds ≠ [] ∧ ∀ c ∈ ds, isDigit c = true

/-- The digits of a number are digits. -/
theorem isDigits_decimalDigits (n : ℕ) : IsDigits (decimalDigits n) :=
  ⟨decimalDigits_ne_nil n, fun _ hc => isDigit_of_mem_decimalDigits hc⟩

/-- **The digits of a number write the number.** -/
theorem ofDigits_decimalDigits (n : ℕ) : ofDigits (decimalDigits n) = n := by
  have hfold : ∀ (cs : List Char) (m : ℕ), (∀ c ∈ cs, isDigit c = true) →
      cs.foldl (fun n c => n * 10 + (digit? c).getD 0) m = Nat.ofDigitChars 10 cs m := by
    intro cs
    induction cs with
    | nil => intro m _; rfl
    | cons c cs ih =>
      intro m h
      rw [List.foldl_cons, Nat.ofDigitChars_cons, ih _ fun d hd => h d (List.mem_cons_of_mem _ hd),
        getD_digit?_of_isDigit (h c (List.mem_cons_self ..)), Nat.mul_comm]
  rw [ofDigits, hfold _ 0 fun c hc => isDigit_of_mem_decimalDigits hc]
  exact Nat.ofDigitChars_ten_toDigits

/-- Only zero starts with the digit zero. -/
theorem head?_decimalDigits {n : ℕ} (hn : n ≠ 0) : (decimalDigits n).head? ≠ some '0' := by
  induction n using Nat.strong_induction_on with
  | _ n ih =>
    rcases Nat.lt_or_ge n 10 with hlt | hge
    · rw [decimalDigits, Nat.toDigits_of_lt_base hlt]
      intro hzero
      have hcode := Nat.toNat_digitChar_of_lt_ten hlt
      rw [Option.some.inj hzero] at hcode
      have hcode : 48 = 48 + n := hcode
      omega
    · have hquotient : n / 10 ≠ 0 := by omega
      have hhead := ih (n / 10) (by omega) hquotient
      rw [decimalDigits, Nat.toDigits_of_base_le (by decide) hge, List.head?_append]
      obtain ⟨c, cs, hcs⟩ := List.exists_cons_of_ne_nil (decimalDigits_ne_nil (n / 10))
      rw [decimalDigits] at hcs hhead
      rw [hcs] at hhead ⊢
      exact hhead

end Number
end CourtDocket
