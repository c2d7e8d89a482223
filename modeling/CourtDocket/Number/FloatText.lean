/-
# Texts of floating point numbers

A number is written with the digits of `Decimal.shortest`, in one of two notations.  Which one is
used, and the spelling of the rest, is a value of `FloatLayout`: the JSON and the YAML form of a
number differ in nothing else.

Reading accepts an optional sign and then digits with at most one point among or beside them and
an optional exponent, or one of the words `inf`, `infinity` and `nan` in any letter case.
-/

import CourtDocket.Number.Digit
import CourtDocket.Number.Shortest

namespace CourtDocket

/-- How numbers are spelled. -/
structure FloatLayout where
  /-- The lowest place of a first digit that is written without an exponent. -/
  plainFrom : Int
  /-- The highest place of a first digit that is written without an exponent. -/
  plainTo : Int
  /-- What stands before a positive exponent. -/
  exponentSign : String
  /-- The text of what is no number. -/
  nan : String
  /-- The text of an infinity above zero. -/
  infinity : String
  /-- The text of an infinity below zero. -/
  negativeInfinity : String

namespace FloatLayout

/-- The digits of a number in base ten. -/
def decimalDigits (n : Nat) : List Char :=
  Nat.toDigits 10 n

/-- Digits without an exponent: a point always, and a digit on each side of it. -/
def plain (digits : List Char) (place : Int) : List Char :=
  if place < 0 then
    ['0', '.'] ++ List.replicate (-place - 1).toNat '0' ++ digits
  else
    let whole := place.toNat + 1
    if digits.length ≤ whole then
      digits ++ List.replicate (whole - digits.length) '0' ++ ['.', '0']
    else digits.take whole ++ ['.'] ++ digits.drop whole

/-- Digits with an exponent: a point only between digits. -/
def scientific (layout : FloatLayout) (digits : List Char) (place : Int) : List Char :=
  digits.take 1 ++ (if digits.length ≤ 1 then [] else '.' :: digits.drop 1) ++ ['e'] ++
    (if 0 ≤ place then layout.exponentSign.toList else ['-']) ++ decimalDigits place.natAbs

/-- The text of a number. -/
def write (layout : FloatLayout) : Binary64 → String
  | .nan => layout.nan
  | .infinite negative => if negative then layout.negativeInfinity else layout.infinity
  | .finite negative m e _ =>
    let sign := if negative then ['-'] else []
    if m = 0 then String.ofList (sign ++ ['0', '.', '0'])
    else
      let d := Decimal.shortest m e
      let digits := decimalDigits d.digits
      let place := d.exponent + (digits.length : Int) - 1
      String.ofList <| sign ++
        if layout.plainFrom ≤ place ∧ place ≤ layout.plainTo then plain digits place
        else layout.scientific digits place

/-- A positive exponent has a sign in JSON, which knows no word for what is not finite. -/
def json : FloatLayout :=
  { plainFrom := -5, plainTo := 15, exponentSign := "+", nan := "null", infinity := "null"
    negativeInfinity := "null" }

/-- A positive exponent is written without a sign in YAML, and every number has a word. -/
def yaml : FloatLayout :=
  { plainFrom := -5, plainTo := 15, exponentSign := "", nan := ".nan", infinity := ".inf"
    negativeInfinity := "-.inf" }

end FloatLayout

namespace Number

/-- The exponent of a number, zero when there is none. -/
def readExponent? : List Char → Option Int
  | [] => some 0
  | c :: cs => if c = 'e' ∨ c = 'E' then readInteger? cs else none

/-- The number written by digits with an optional point and exponent. -/
def readDecimal? (negative : Bool) (cs : List Char) : Option Binary64 :=
  let whole := cs.takeWhile isDigit
  let (fraction, rest) :=
    match cs.dropWhile isDigit with
    | '.' :: cs => (cs.takeWhile isDigit, cs.dropWhile isDigit)
    | cs => ([], cs)
  if whole.isEmpty && fraction.isEmpty then none
  else
    (readExponent? rest).map fun e =>
      Binary64.ofDecimal negative (ofDigits (whole ++ fraction)) (e - (fraction.length : Int))

/-- The number that a text writes. -/
def readFloat? (cs : List Char) : Option Binary64 :=
  let (negative, body) := splitSign cs
  let word := String.ofList (body.map Char.toLower)
  if word = "nan" then some .nan
  else if word = "inf" ∨ word = "infinity" then some (.infinite negative)
  else readDecimal? negative body

end Number
end CourtDocket
