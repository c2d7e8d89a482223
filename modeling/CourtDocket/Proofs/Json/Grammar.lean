/-
# The grammar of JSON texts

A tree is written as tokens (`Node.Tokens`): words, numbers, strings, brackets, commas and colons.
A text is a row of tokens with any white space between them (`Spaced`), and it spells a tree when
the tokens are those of the tree (`Node.SpelledBy`).

Numbers and strings have several spellings: the mark and the sign of an exponent and the escapes of
a string are free.  What is found as a string or a number at the start of a text spells it
(`RawString.spelledBy_of_split`, `Numeral.spelledBy_of_split`), and whatever spells it is found
(`RawString.SpelledBy.split`, `Numeral.SpelledBy.split`).
-/

import CourtDocket.Proofs.Json.Reader
import Mathlib.Data.List.Forall2

namespace CourtDocket
namespace Json

open Number

/-! ### The grammar -/

/-- Whether a part of a string is written as a text. -/
inductive Piece.SpelledBy : Piece → List Char → Prop where
  /-- A character stands for itself. -/
  | char {c : Char} (hquote : c ≠ '"') (hbackslash : c ≠ '\\') (hcontrol : ¬ c.toNat < 0x20) :
      Piece.SpelledBy (.char c) [c]
  /-- A short escape. -/
  | short {e c : Char} (h : shortEscape? e = some c) : Piece.SpelledBy (.short c) ['\\', e]
  /-- A unit in hexadecimal. -/
  | unit {w x y z : Char} {n : ℕ} (h : unit? (.char w) (.char x) (.char y) (.char z) = some n) :
      Piece.SpelledBy (.unit n) ['\\', 'u', w, x, y, z]

/-- Whether a string is written as a text: its parts between quotes. -/
inductive RawString.SpelledBy : RawString → List Char → Prop where
  | mk {pieces : List Piece} {ts : List (List Char)} (h : List.Forall₂ Piece.SpelledBy pieces ts) :
      RawString.SpelledBy ⟨pieces, .closed⟩ ('"' :: (ts.flatten ++ ['"']))

/-- What stands before an item or a member: a comma, unless it is the first. -/
def separator (atStart : Bool) : List (List Char) :=
  if atStart then [] else [[',']]

mutual

/-- Whether a value is written as tokens. -/
inductive Node.Tokens : Node → List (List Char) → Prop where
  | null : Node.Tokens .null [['n', 'u', 'l', 'l']]
  | bool (b : Bool) :
      Node.Tokens (.bool b) [if b then ['t', 'r', 'u', 'e'] else ['f', 'a', 'l', 's', 'e']]
  | number {n : Numeral} {t : List Char} (h : n.SpelledBy t) : Node.Tokens (.number n) [t]
  | string {s : RawString} {t : List Char} (h : s.SpelledBy t) : Node.Tokens (.string s) [t]
  | array {vs : Items} {ts : List (List Char)} (h : Items.Tokens true vs ts) :
      Node.Tokens (.array vs) (['['] :: ts)
  | object {ms : Members} {ts : List (List Char)} (h : Members.Tokens true ms ts) :
      Node.Tokens (.object ms) (['\x7b'] :: ts)

/-- Whether the rest of a list is written as tokens. -/
inductive Items.Tokens : Bool → Items → List (List Char) → Prop where
  | close {atStart : Bool} : Items.Tokens atStart .close [[']']]
  | item {atStart : Bool} {v : Node} {vs : Items} {ts us : List (List Char)} (hv : Node.Tokens v ts)
      (hvs : Items.Tokens false vs us) :
      Items.Tokens atStart (.item v vs) (separator atStart ++ (ts ++ us))

/-- Whether the rest of an object is written as tokens. -/
inductive Members.Tokens : Bool → Members → List (List Char) → Prop where
  | close {atStart : Bool} : Members.Tokens atStart .close [['\x7d']]
  | member {atStart : Bool} {key : RawString} {v : Node} {ms : Members} {t : List Char}
      {ts us : List (List Char)} (hkey : key.SpelledBy t) (hv : Node.Tokens v ts)
      (hms : Members.Tokens false ms us) :
      Members.Tokens atStart (.member key v ms) (separator atStart ++ (t :: [':'] :: (ts ++ us)))

end

/-- Whether a text is a row of tokens with white space between them. -/
inductive Spaced : List (List Char) → List Char → Prop where
  /-- White space follows the last token. -/
  | nil {w : List Char} (hw : IsSpace w) : Spaced [] w
  /-- White space stands before a token. -/
  | cons {w t cs : List Char} {ts : List (List Char)} (hw : IsSpace w) (h : Spaced ts cs) :
      Spaced (t :: ts) (w ++ (t ++ cs))

/-- **Whether a tree is written as a text.** -/
def Node.SpelledBy (v : Node) (text : String) : Prop :=
  ∃ ts, v.Tokens ts ∧ Spaced ts text.toList

/-! ### Strings and numbers -/

namespace RawString

variable {rest : List Symbol}

/-- A part of a string is found at the start of a text. -/
theorem split_piece {p : Piece} {u : List Char} (h : p.SpelledBy u) (r : List Symbol) :
    split (u.map Symbol.char ++ r) = ((split r).1.cons p, (split r).2) := by
  cases h with
  | char hquote hbackslash hcontrol => exact split_char r hquote hbackslash hcontrol
  | @short e c h =>
    have hunit : e ≠ 'u' := by
      rintro rfl
      cases h
    exact split_short r hunit h
  | @unit w x y z n h =>
    have hw := w.utf8Size_pos
    have hx := x.utf8Size_pos
    have hy := y.utf8Size_pos
    have hz := z.utf8Size_pos
    refine split_unit r ?_ h
    simp only [Symbol.size]
    omega

/-- **A string is found at the start of a text.** -/
theorem SpelledBy.split {s : RawString} {t : List Char} (h : s.SpelledBy ('"' :: t)) :
    split (t.map Symbol.char ++ rest) = (s, rest) := by
  obtain @⟨pieces, ts, hpieces⟩ := h
  induction hpieces with
  | nil => exact split_quote rest
  | @cons p u pieces ts hp _ ih =>
    rw [List.flatten_cons, List.append_assoc, List.map_append, List.append_assoc, split_piece hp,
      ih]
    rfl

/-- One more part is spelled before the others. -/
theorem SpelledBy.cons {p : Piece} {s : RawString} {u t : List Char} (hp : p.SpelledBy u)
    (hs : s.SpelledBy ('"' :: t)) : (s.cons p).SpelledBy ('"' :: (u ++ t)) := by
  obtain @⟨pieces, ts, hpieces⟩ := hs
  rw [← List.append_assoc]
  exact .mk (.cons hp hpieces)

/-- **What is found at the start of a text spells the string**, if the string has an end. -/
theorem spelledBy_of_split {cs : List Char} {s : RawString}
    (h : split (cs.map Symbol.char) = (s, rest)) (hclosed : s.ending = .closed) :
    ∃ t cs', cs = t ++ cs' ∧ rest = cs'.map Symbol.char ∧ s.SpelledBy ('"' :: t) := by
  generalize hsymbols : cs.map Symbol.char = symbols at h
  fun_induction RawString.split symbols generalizing cs s rest
  all_goals
    obtain ⟨rfl, rfl⟩ := Prod.mk.inj h
    try cases hclosed
  case case2 b r s rest hsplit ih =>
    obtain ⟨c, cs, rfl, hc, -⟩ := List.map_eq_cons_iff.1 hsymbols
    cases hc
  case case3 r =>
    obtain ⟨c, cs, rfl, hc, rfl⟩ := List.map_eq_cons_iff.1 hsymbols
    cases hc
    exact ⟨['"'], cs, rfl, rfl, .mk .nil⟩
  case case7 w x y z r n hunit s rest hsplit _ _ ih =>
    simp only [List.map_eq_cons_iff] at hsymbols
    obtain ⟨_, _, rfl, hbackslash, _, _, rfl, hu, w', _, rfl, rfl, x', _, rfl, rfl, y', _, rfl, rfl,
      z', cs, rfl, rfl, rfl⟩ := hsymbols
    cases hbackslash
    cases hu
    obtain ⟨t, cs', rfl, rfl, hs⟩ := ih (show s.ending = .closed from hclosed) rfl hsplit
    exact ⟨_, cs', rfl, rfl, SpelledBy.cons (.unit hunit) hs⟩
  case case10 e r _ c hshort s rest hsplit _ ih =>
    simp only [List.map_eq_cons_iff] at hsymbols
    obtain ⟨_, _, rfl, hbackslash, _, cs, rfl, he, rfl⟩ := hsymbols
    cases hbackslash
    cases he
    obtain ⟨t, cs', rfl, rfl, hs⟩ := ih (show s.ending = .closed from hclosed) rfl hsplit
    exact ⟨_, cs', rfl, rfl, SpelledBy.cons (.short hshort) hs⟩
  case case13 c r hquote hbackslash hcontrol s rest hsplit ih =>
    obtain ⟨d, cs, rfl, hd, rfl⟩ := List.map_eq_cons_iff.1 hsymbols
    cases hd
    obtain ⟨t, cs', rfl, rfl, hs⟩ := ih (show s.ending = .closed from hclosed) rfl hsplit
    exact ⟨_, cs', rfl, rfl, SpelledBy.cons (.char hquote hbackslash hcontrol) hs⟩

end RawString

namespace Numeral

variable {s rest : List Symbol} {ds : List Char}

/-- What is read as digits stands at the start and is digits. -/
theorem eq_append_of_digits (h : digits s = (ds, rest)) :
    s = ds.map Symbol.char ++ rest ∧ ∀ c ∈ ds, isDigit c = true := by
  induction s generalizing ds with
  | nil =>
    cases h
    exact ⟨rfl, List.forall_mem_nil _⟩
  | cons x s ih =>
    cases x with
    | stray b =>
      cases h
      exact ⟨rfl, List.forall_mem_nil _⟩
    | char c =>
      rw [digits] at h
      split_ifs at h with hc
      · cases h
        obtain ⟨hs, hds⟩ := ih rfl
        exact ⟨congrArg _ hs, List.forall_mem_cons.2 ⟨hc, hds⟩⟩
      · cases h
        exact ⟨rfl, List.forall_mem_nil _⟩

/-- What is read as digits stands at the start and is a digit at least. -/
theorem eq_append_of_someDigits (h : someDigits s = .ok (ds, rest)) :
    s = ds.map Symbol.char ++ rest ∧ ds ≠ [] ∧ ∀ c ∈ ds, isDigit c = true := by
  rw [someDigits] at h
  cases hdigits : digits s with
  | mk found r =>
    obtain ⟨hs, hall⟩ := eq_append_of_digits hdigits
    rw [hdigits] at h
    cases found with
    | nil => cases r <;> cases h
    | cons c found =>
      cases h
      exact ⟨hs, List.cons_ne_nil _ _, hall⟩

/-- What is read as whole digits stands at the start, without a needless zero. -/
theorem eq_append_of_splitWhole (h : splitWhole s = .ok (ds, rest)) :
    s = ds.map Symbol.char ++ rest ∧ ds ≠ [] ∧ (∀ c ∈ ds, isDigit c = true) ∧
      (ds.head? = some '0' → ds = ['0']) := by
  rw [splitWhole, bind_eq_ok_iff] at h
  obtain ⟨⟨found, r⟩, hfound, h⟩ := h
  obtain ⟨hs, hne, hall⟩ := eq_append_of_someDigits hfound
  simp only at h
  split at h
  · cases h
  · next hzero =>
    cases h
    refine ⟨hs, hne, hall, fun hhead => ?_⟩
    obtain ⟨c, cs, rfl⟩ := List.exists_cons_of_ne_nil hne
    cases hhead
    cases cs with
    | nil => rfl
    | cons d cs => exact absurd rfl (hzero d cs)

/-- What is read as a fraction stands at the start, a point before its digits if there are any. -/
theorem eq_append_of_splitFraction (h : splitFraction s = .ok (ds, rest)) :
    s = (fractionText ds).map Symbol.char ++ rest ∧ ∀ c ∈ ds, isDigit c = true := by
  rw [splitFraction.eq_def] at h
  split at h
  · obtain ⟨hs, hne, hall⟩ := eq_append_of_someDigits h
    rw [fractionText, if_neg hne]
    exact ⟨congrArg _ hs, hall⟩
  · cases h
    exact ⟨rfl, List.forall_mem_nil _⟩

/-- What is read as the sign of an exponent stands at the start; it may be left out for a plus. -/
theorem exists_append_of_splitExponentSign (s : List Symbol) :
    ∃ sign : List Char, s = sign.map Symbol.char ++ (splitExponentSign s).2 ∧
      (sign = (if (splitExponentSign s).1 then ['-'] else ['+']) ∨
        sign = [] ∧ (splitExponentSign s).1 = false) := by
  rw [splitExponentSign.eq_def]
  split
  · exact ⟨['+'], rfl, .inl rfl⟩
  · exact ⟨['-'], rfl, .inl rfl⟩
  · exact ⟨[], rfl, .inr ⟨rfl, rfl⟩⟩

/-- What is read as an exponent stands at the start, with its mark, its sign and its digits. -/
theorem exists_append_of_splitExponent {e : Option (Bool × List Char)}
    (h : splitExponent s = .ok (e, rest)) :
    ∃ t, s = t.map Symbol.char ++ rest ∧ ExponentSpelledBy e t := by
  rw [splitExponent.eq_def] at h
  split at h
  · next c r =>
    split_ifs at h with hmark
    · obtain ⟨sign, hr, hsign⟩ := exists_append_of_splitExponentSign r
      simp only [bind_eq_ok_iff] at h
      obtain ⟨⟨ds, r'⟩, hds, h⟩ := h
      cases h
      obtain ⟨hr', hne, hall⟩ := eq_append_of_someDigits hds
      refine ⟨c :: (sign ++ ds), ?_, .some hmark hsign hne hall⟩
      rw [hr', ← List.append_assoc, ← List.map_append] at hr
      rw [hr]
      rfl
    · cases h
      exact ⟨[], rfl, .none⟩
  · cases h
    exact ⟨[], rfl, .none⟩

/-- **What is found at the start of a text spells the numeral.** -/
theorem spelledBy_of_split {n : Numeral} (h : split s = .ok (n, rest)) :
    ∃ t, s = t.map Symbol.char ++ rest ∧ n.SpelledBy t := by
  obtain ⟨sign, r, hsign, h⟩ : ∃ sign r, s = (signText sign).map Symbol.char ++ r ∧
      (splitWhole r >>= fun w => splitFraction w.2 >>= fun f => splitExponent f.2 >>= fun e =>
        pure ((⟨sign, w.1, f.1, e.1⟩ : Numeral), e.2)) = .ok (n, rest) := by
    rw [split.eq_def] at h
    split at h
    next negative r hsplit =>
    split at hsplit
    · cases hsplit
      exact ⟨true, _, rfl, h⟩
    · cases hsplit
      exact ⟨false, _, rfl, h⟩
  simp only [bind_eq_ok_iff] at h
  obtain ⟨⟨whole, r₁⟩, hwhole, ⟨fraction, r₂⟩, hfraction, ⟨exponent, r₃⟩, hexponent, h⟩ := h
  cases h
  obtain ⟨hr, hne, hdigits, hzero⟩ := eq_append_of_splitWhole hwhole
  obtain ⟨hr₁, hfraction⟩ := eq_append_of_splitFraction hfraction
  obtain ⟨t, hr₂, ht⟩ := exists_append_of_splitExponent hexponent
  refine ⟨_, ?_, .mk ⟨hne, hdigits, hzero, hfraction, ?_⟩ ht⟩
  · subst hsign
    simp only at hr hr₁ hr₂
    rw [hr, hr₁, hr₂]
    simp
  · rintro e he
    cases ht with
    | none => cases he
    | some _ _ hne hds =>
      cases he
      exact ⟨hne, hds⟩

end Numeral

end Json
end CourtDocket
