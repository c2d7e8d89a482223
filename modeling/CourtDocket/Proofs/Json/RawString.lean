/-
# Strings are read as they are written

Each character of a string is written as one piece (`Piece.ofChar`): a short escape, a unit for
any other control character, or the character itself.  So the string of these pieces is found in
the text (`RawString.split_stringText`), and its own text is the string again
(`RawString.text_ofString`).
-/

import CourtDocket.Json.Basic
import CourtDocket.Json.RawString
import Mathlib.Data.Nat.Notation
import Mathlib.Tactic.SplitIfs

namespace CourtDocket
namespace Json

/-- The piece that a character is written as. -/
def Piece.ofChar (c : Char) : Piece :=
  if c ∈ ['"', '\\', '\x08', '\x0c', '\n', '\r', '\t'] then .short c
  else if c.toNat < 0x20 then .unit c.toNat
  else .char c

namespace RawString

/-- The string as it is written. -/
def ofString (s : String) : RawString :=
  ⟨s.toList.map Piece.ofChar, .closed⟩

variable (rest : List Symbol)

-- `split` looks further into a text only after a backslash.  Its definition is opened by `delta`,
-- as it is not unfolded otherwise while what follows is unknown.

/-- A quote closes a string. -/
theorem split_quote : split (.char '"' :: rest) = (⟨[], .closed⟩, rest) := by
  delta split
  exact if_pos rfl

/-- A character that needs no escape stands for itself. -/
theorem split_char {c : Char} (hquote : c ≠ '"') (hbackslash : c ≠ '\\')
    (hcontrol : ¬ c.toNat < 0x20) :
    split (.char c :: rest) = ((split rest).1.cons (.char c), (split rest).2) := by
  delta split
  exact (if_neg hquote).trans <| (if_neg hbackslash).trans (if_neg hcontrol)

/-- A short escape stands for its character. -/
theorem split_short {e c : Char} (hunit : e ≠ 'u') (hshort : shortEscape? e = some c) :
    split (.char '\\' :: .char e :: rest) = ((split rest).1.cons (.short c), (split rest).2) := by
  delta split
  refine (if_neg hunit).trans ?_
  rw [hshort]

/-- Four hexadecimal digits of one octet each stand for a unit. -/
theorem split_unit {w x y z : Char} {n : ℕ}
    (hsize : 4 ≤ (Symbol.char w).size + (Symbol.char x).size + (Symbol.char y).size +
      (Symbol.char z).size)
    (hunit : unit? (.char w) (.char x) (.char y) (.char z) = some n) :
    split (.char '\\' :: .char 'u' :: .char w :: .char x :: .char y :: .char z :: rest) =
      ((split rest).1.cons (.unit n), (split rest).2) := by
  have hsum : ¬ (Symbol.char w).size + ((Symbol.char x).size + ((Symbol.char y).size +
      ((Symbol.char z).size + 0))) < 4 := by omega
  delta split
  refine (if_neg hsum).trans ?_
  rw [hunit]

/-- The escape of a control character is four bytes that write its code. -/
theorem unit?_digitChar : ∀ n < 0x20,
    4 ≤ (Symbol.char '0').size + (Symbol.char '0').size +
        (Symbol.char (Nat.digitChar (n / 16))).size +
        (Symbol.char (Nat.digitChar (n % 16))).size ∧
      unit? (.char '0') (.char '0') (.char (Nat.digitChar (n / 16)))
        (.char (Nat.digitChar (n % 16))) = some n := by
  decide

/-- **A character is read as the piece that it is written as.** -/
theorem split_escapeChar (c : Char) :
    split ((escapeChar c).map Symbol.char ++ rest) =
      ((split rest).1.cons (.ofChar c), (split rest).2) := by
  by_cases hshort : c ∈ ['"', '\\', '\x08', '\x0c', '\n', '\r', '\t']
  · rw [Piece.ofChar, if_pos hshort]
    simp only [List.mem_cons, List.not_mem_nil, or_false] at hshort
    rcases hshort with rfl | rfl | rfl | rfl | rfl | rfl | rfl <;>
      exact split_short rest (by decide) rfl
  · rw [Piece.ofChar, if_neg hshort]
    simp only [List.mem_cons, List.not_mem_nil, or_false, not_or] at hshort
    obtain ⟨h₁, h₂, h₃, h₄, h₅, h₆, h₇⟩ := hshort
    rw [escapeChar, if_neg h₁, if_neg h₂, if_neg h₃, if_neg h₄, if_neg h₅, if_neg h₆, if_neg h₇]
    split_ifs with hcontrol
    · obtain ⟨hsize, hunit⟩ := unit?_digitChar c.toNat hcontrol
      exact split_unit rest hsize hunit
    · exact split_char rest h₁ h₂ hcontrol

/-- **A string is found in the text that writes it.** -/
theorem split_stringText (s : String) :
    split ((s.toList.flatMap escapeChar ++ ['"']).map Symbol.char ++ rest) =
      (ofString s, rest) := by
  rw [ofString]
  induction s.toList with
  | nil => exact split_quote rest
  | cons c cs ih =>
    rw [List.flatMap_cons, List.append_assoc, List.map_append, List.append_assoc, split_escapeChar,
      ih]
    rfl

/-- A text in pieces is read as its characters. -/
theorem chars_map_ofChar (cs : List Char) :
    chars .closed (cs.map Piece.ofChar) = .ok (cs.map some) := by
  induction cs with
  | nil => rfl
  | cons c cs ih =>
    rw [List.map_cons, List.map_cons, Piece.ofChar]
    split_ifs with hshort hcontrol
    · rw [chars, ih]
      rfl
    · have htrailing : isTrailing c.toNat = false := by
        simp only [isTrailing, Bool.and_eq_false_iff, decide_eq_false_iff_not]
        omega
      have hleading : isLeading c.toNat = false := by
        simp only [isLeading, Bool.and_eq_false_iff, decide_eq_false_iff_not]
        omega
      rw [chars.eq_def]
      simp only [htrailing, hleading, ih, Bool.false_eq_true, if_false, Char.ofNat_toNat]
      rfl
    · rw [chars, ih]
      rfl

/-- **The text of a string as it is written is the string.** -/
theorem text_ofString (s : String) : (ofString s).text = .ok s := by
  have hall : ∀ cs : List Char, (cs.map some).mapM id = some cs := by
    intro cs
    induction cs with
    | nil => rfl
    | cons c cs ih => simp [List.mapM_cons, ih]
  rw [text, ofString, chars_map_ofChar]
  simp only [bind, Except.bind, hall, String.ofList_toList]
  rfl

/-- Another text is not read as a name. -/
theorem text_ofString_ne {s name : String} (h : s ≠ name) : (ofString s).text ≠ .ok name := by
  rw [text_ofString]
  exact fun hs => h (Except.ok.inj hs)

end RawString
end Json
end CourtDocket
