/-
# Bytes as characters

A JSON document arrives as bytes that should be UTF-8.  A byte that is part of no character does
not make the document unreadable at once: it only spoils the string it stands in.  So the bytes
are read as symbols, each a character or such a stray byte.
-/

namespace CourtDocket
namespace Json

/-- A character, or a byte that is part of none. -/
inductive Symbol where
  /-- A character. -/
  | char (c : Char)
  /-- A byte that is part of no character. -/
  | stray (b : UInt8)
  deriving DecidableEq, Repr

namespace Symbol

/-- Whether a byte continues a character. -/
def continues (b : UInt8) : Bool :=
  0x80 ≤ b && b < 0xC0

/-- The low six bits of a continuing byte. -/
def payload (b : UInt8) : Nat :=
  b.toNat % 64

/-- The character of two bytes. -/
def two? (a b : UInt8) : Option Char :=
  let n := a.toNat % 32 * 64 + payload b
  if 0xC0 ≤ a ∧ a < 0xE0 ∧ continues b ∧ 0x80 ≤ n then some (Char.ofNat n) else none

/-- The character of three bytes. -/
def three? (a b c : UInt8) : Option Char :=
  let n := (a.toNat % 16 * 64 + payload b) * 64 + payload c
  if 0xE0 ≤ a ∧ a < 0xF0 ∧ continues b ∧ continues c ∧ 0x800 ≤ n ∧ ¬(0xD800 ≤ n ∧ n < 0xE000)
  then some (Char.ofNat n) else none

/-- The character of four bytes. -/
def four? (a b c d : UInt8) : Option Char :=
  let n := ((a.toNat % 8 * 64 + payload b) * 64 + payload c) * 64 + payload d
  if 0xF0 ≤ a ∧ a < 0xF8 ∧ continues b ∧ continues c ∧ continues d ∧ 0x10000 ≤ n ∧ n < 0x110000
  then some (Char.ofNat n) else none

/-- The symbol that starts with the byte `a`, and how many of the bytes `r` belong to it. -/
def first (a : UInt8) (r : List UInt8) : Symbol × Nat :=
  if a < 0x80 then (char (Char.ofNat a.toNat), 0)
  else
    let found :=
      match r with
      | b :: c :: d :: _ =>
        (two? a b).map (·, 1) <|> (three? a b c).map (·, 2) <|> (four? a b c d).map (·, 3)
      | [b, c] => (two? a b).map (·, 1) <|> (three? a b c).map (·, 2)
      | [b] => (two? a b).map (·, 1)
      | [] => none
    match found with
    | some (c, n) => (char c, n)
    | none => (stray a, 0)

/-- The symbols of a list of bytes. -/
def ofBytes : List UInt8 → List Symbol
  | [] => []
  | a :: r => (first a r).1 :: ofBytes (r.drop (first a r).2)
  termination_by bs => bs.length
  decreasing_by
    simp only [List.length_drop, List.length_cons]
    omega

/-- The symbols of a text. -/
def ofString (s : String) : List Symbol :=
  s.toList.map char

/-- The number of bytes of a symbol. -/
def size : Symbol → Nat
  | char c => c.utf8Size
  | stray _ => 1

/-- The number of bytes of a list of symbols. -/
def sizes : List Symbol → Nat
  | [] => 0
  | s :: r => s.size + sizes r

/-- The text of a list of symbols, if no byte is stray. -/
def toChars? : List Symbol → Option (List Char)
  | [] => some []
  | char c :: r => (toChars? r).map (c :: ·)
  | stray _ :: _ => none

end Symbol
end Json
end CourtDocket
