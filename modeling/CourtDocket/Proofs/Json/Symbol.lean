/-
# A text is read from its bytes

The bytes of a character are its code in groups of six bits behind a prefix; the first byte says by
its prefix how many there are.  So a test for fewer bytes fails on it, the test for as many puts
the code together again, and reading goes on behind the character
(`Symbol.ofBytes_utf8EncodeChar_append`).  No byte of a text is left over
(`Symbol.ofBytes_toUTF8`).
-/

import Mathlib.Algebra.Order.Ring.Nat
import CourtDocket.Json.Symbol

namespace CourtDocket
namespace Json
namespace Symbol

variable {a b c d : UInt8} {r : List UInt8} {x : Char} {n : ℕ}

/-! ### Bytes with a prefix -/

/-- A number below 256 is the value of its byte. -/
theorem toNat_ofNat (h : n < 256) : (UInt8.ofNat n).toNat = n :=
  UInt8.toNat_ofNat_of_lt (show n < UInt8.size from h)

/-- Bytes are in the order of their values. -/
theorem ofNat_le_ofNat {m : ℕ} (hm : m ≤ n) (h : n < 256) : UInt8.ofNat m ≤ UInt8.ofNat n := by
  rwa [UInt8.le_iff_toNat_le, toNat_ofNat h, toNat_ofNat (by omega)]

/-- Bytes are in the strict order of their values. -/
theorem ofNat_lt_ofNat {m : ℕ} (hm : m < n) (h : n < 256) : UInt8.ofNat m < UInt8.ofNat n := by
  rwa [UInt8.lt_iff_toNat_lt, toNat_ofNat h, toNat_ofNat (by omega)]

/-- A byte with the prefix of a later byte is one. -/
theorem continues_ofNat (h : n < 64) : continues (UInt8.ofNat (n + 128)) = true := by
  rw [continues, Bool.and_eq_true, decide_eq_true_eq, decide_eq_true_eq]
  exact ⟨ofNat_le_ofNat (m := 128) (by omega) (by omega),
    ofNat_lt_ofNat (n := 192) (by omega) (by omega)⟩

/-- The six bits behind the prefix of a later byte are the group that was put there. -/
theorem payload_ofNat (h : n < 64) : payload (UInt8.ofNat (n + 128)) = n := by
  rw [payload, toNat_ofNat (by omega)]
  omega

/-! ### The first character -/

/-- A first byte of three or more is not taken for one of two. -/
theorem two?_eq_none (ha : 0xE0 ≤ a) : two? a b = none := by
  have hhigh : ¬a < 0xE0 := by grind
  simp [two?, hhigh]

/-- A first byte of four is not taken for one of three. -/
theorem three?_eq_none (ha : 0xF0 ≤ a) : three? a b c = none := by
  have hhigh : ¬a < 0xF0 := by grind
  simp [three?, hhigh]

/-- A character of two bytes is the first one where the test for two bytes succeeds. -/
theorem first_of_two? (ha : 0xC0 ≤ a) (h : two? a b = some x) :
    first a (b :: r) = (char x, 1) := by
  have hlow : ¬a < 0x80 := by grind
  match r with
  | [] => simp [first, hlow, h]
  | [c] => simp [first, hlow, h]
  | c :: d :: r => simp [first, hlow, h]

/-- A character of three bytes is the first one where the test for three bytes succeeds: the test
for two fails there. -/
theorem first_of_three? (ha : 0xE0 ≤ a) (h : three? a b c = some x) :
    first a (b :: c :: r) = (char x, 2) := by
  have hlow : ¬a < 0x80 := by grind
  match r with
  | [] => simp [first, hlow, two?_eq_none ha, h]
  | d :: r => simp [first, hlow, two?_eq_none ha, h]

/-- A character of four bytes is the first one where the test for four bytes succeeds: the tests for
two and for three fail there. -/
theorem first_of_four? (ha : 0xF0 ≤ a) (h : four? a b c d = some x) :
    first a (b :: c :: d :: r) = (char x, 3) := by
  have hlow : ¬a < 0x80 := by grind
  have hthree : 0xE0 ≤ a := by grind
  simp [first, hlow, two?_eq_none hthree, three?_eq_none ha, h]

/-- A code of at most seven bits is read from its one byte. -/
theorem first_one (h : n ≤ 0x7F) : first (.ofNat n) r = (char (Char.ofNat n), 0) := by
  have hlow : UInt8.ofNat n < 0x80 := ofNat_lt_ofNat (n := 128) (by omega) (by decide)
  simp only [first, hlow, if_true, toNat_ofNat (show n < 256 by omega)]

/-- A code of at most eleven bits is read from its two bytes. -/
theorem first_two (hn : 0x7F < n) (h : n ≤ 0x7FF) :
    first (.ofNat (n / 64 % 32 + 192)) (.ofNat (n % 64 + 128) :: r) =
      (char (Char.ofNat n), 1) := by
  have hlast : n % 64 < 64 := Nat.mod_lt _ (by decide)
  have hcode : (n / 64 % 32 + 192) % 32 * 64 + n % 64 = n := by omega
  have hleast : 0xC0 ≤ UInt8.ofNat (n / 64 % 32 + 192) :=
    ofNat_le_ofNat (m := 192) (by omega) (by omega)
  apply first_of_two? hleast
  rw [two?, toNat_ofNat (by omega), payload_ofNat hlast, continues_ofNat hlast, hcode, if_pos]
  exact ⟨hleast, ofNat_lt_ofNat (n := 224) (by omega) (by decide), rfl, hn⟩

/-- A code of at most sixteen bits that is no surrogate is read from its three bytes. -/
theorem first_three (hn : 0x7FF < n) (h : n ≤ 0xFFFF) (hs : n < 0xD800 ∨ 0xDFFF < n) :
    first (.ofNat (n / 4096 % 16 + 224))
      (.ofNat (n / 64 % 64 + 128) :: .ofNat (n % 64 + 128) :: r) = (char (Char.ofNat n), 2) := by
  have hmiddle : n / 64 % 64 < 64 := Nat.mod_lt _ (by decide)
  have hlast : n % 64 < 64 := Nat.mod_lt _ (by decide)
  have hcode : ((n / 4096 % 16 + 224) % 16 * 64 + n / 64 % 64) * 64 + n % 64 = n := by omega
  have hleast : 0xE0 ≤ UInt8.ofNat (n / 4096 % 16 + 224) :=
    ofNat_le_ofNat (m := 224) (by omega) (by omega)
  apply first_of_three? hleast
  rw [three?, toNat_ofNat (by omega), payload_ofNat hmiddle, payload_ofNat hlast,
    continues_ofNat hmiddle, continues_ofNat hlast, hcode, if_pos]
  exact ⟨hleast, ofNat_lt_ofNat (n := 240) (by omega) (by decide), rfl, rfl, hn, by omega⟩

/-- A code of more than sixteen bits is read from its four bytes. -/
theorem first_four (hn : 0xFFFF < n) (h : n < 0x110000) :
    first (.ofNat (n / 262144 % 8 + 240))
      (.ofNat (n / 4096 % 64 + 128) :: .ofNat (n / 64 % 64 + 128) :: .ofNat (n % 64 + 128) :: r) =
        (char (Char.ofNat n), 3) := by
  have hsecond : n / 4096 % 64 < 64 := Nat.mod_lt _ (by decide)
  have hthird : n / 64 % 64 < 64 := Nat.mod_lt _ (by decide)
  have hlast : n % 64 < 64 := Nat.mod_lt _ (by decide)
  have hcode : (((n / 262144 % 8 + 240) % 8 * 64 + n / 4096 % 64) * 64 + n / 64 % 64) * 64 +
      n % 64 = n := by omega
  have hleast : 0xF0 ≤ UInt8.ofNat (n / 262144 % 8 + 240) :=
    ofNat_le_ofNat (m := 240) (by omega) (by omega)
  apply first_of_four? hleast
  rw [four?, toNat_ofNat (by omega), payload_ofNat hsecond, payload_ofNat hthird,
    payload_ofNat hlast, continues_ofNat hsecond, continues_ofNat hthird, continues_ofNat hlast,
    hcode, if_pos]
  exact ⟨hleast, ofNat_lt_ofNat (n := 248) (by omega) (by decide), rfl, rfl, rfl, hn, h⟩

/-! ### The characters of a text -/

/-- A character is read from its bytes, whatever follows them. -/
theorem ofBytes_utf8EncodeChar_append (x : Char) (r : List UInt8) :
    ofBytes (String.utf8EncodeChar x ++ r) = char x :: ofBytes r := by
  have hvalid : x.val.toNat < 0xD800 ∨ 0xDFFF < x.val.toNat ∧ x.val.toNat < 0x110000 := x.valid
  have hback : Char.ofNat x.val.toNat = x := Char.ofNat_toNat x
  unfold String.utf8EncodeChar
  generalize x.val.toNat = n at *
  subst hback
  dsimp only
  split_ifs with hone htwo hthree
  · rw [List.cons_append, List.nil_append, ofBytes, first_one hone, List.drop_zero]
  · rw [List.cons_append, List.cons_append, List.nil_append, ofBytes,
      first_two (not_le.1 hone) htwo, List.drop_one, List.tail_cons]
  · rw [List.cons_append, List.cons_append, List.cons_append, List.nil_append, ofBytes,
      first_three (not_le.1 htwo) hthree (by omega)]
    rfl
  · rw [List.cons_append, List.cons_append, List.cons_append, List.cons_append, List.nil_append,
      ofBytes, first_four (not_le.1 hthree) (by omega)]
    rfl

/-- The bytes of characters one after the other are read as the characters. -/
theorem ofBytes_flatMap (cs : List Char) :
    ofBytes (cs.flatMap String.utf8EncodeChar) = cs.map char := by
  induction cs with
  | nil => rw [List.flatMap_nil, ofBytes, List.map_nil]
  | cons x cs ih => rw [List.flatMap_cons, ofBytes_utf8EncodeChar_append, ih, List.map_cons]

/-- **A text is read from its bytes.** -/
theorem ofBytes_toUTF8 (s : String) : ofBytes s.toUTF8.data.toList = ofString s := by
  have hbytes : s.toUTF8.data.toList = s.toList.flatMap String.utf8EncodeChar := by
    rw [String.toUTF8_eq_toByteArray, ← String.utf8Encode_toList, List.utf8Encode,
      List.data_toByteArray]
  rw [hbytes, ofBytes_flatMap, ofString]

/-- No byte of a text is a stray one: its symbols are its characters. -/
theorem toChars?_ofString (s : String) : toChars? (ofString s) = some s.toList := by
  rw [ofString]
  induction s.toList with
  | nil => rfl
  | cons x cs ih => rw [List.map_cons, toChars?, ih, Option.map_some]

end Symbol
end Json
end CourtDocket
