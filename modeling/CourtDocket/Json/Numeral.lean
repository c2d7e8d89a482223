/-
# Numbers as they stand in a JSON text

A numeral is a sign, whole digits without a needless zero, and optional digits after a point and
after an exponent mark.  Its value is an integer when it has neither point nor exponent and fits
into 64 bits (with a sign below zero, without one from zero on), and a binary64 number otherwise.

The binary64 number is found in two roundings: the digits that fit into 64 bits make a number,
which is then multiplied or divided by a power of ten.  Digits that do not fit are dropped, those
before the point raising the power.
-/

import CourtDocket.Json.Fault
import CourtDocket.Json.Symbol
import CourtDocket.Number.FloatText

namespace CourtDocket
namespace Json

/-- A number as it stands in a text. -/
structure Numeral where
  /-- Whether a minus stands before it. -/
  negative : Bool
  /-- The digits before the point. -/
  whole : List Char
  /-- The digits after the point. -/
  fraction : List Char
  /-- The sign, true for a minus, and the digits of the exponent. -/
  exponent : Option (Bool × List Char)
  deriving DecidableEq, Repr

/-- The value of a number. -/
inductive NumberValue where
  /-- An integer that fits into 64 bits. -/
  | int (i : Int)
  /-- A binary64 number. -/
  | float (x : Binary64)
  deriving DecidableEq

/-- What is wrong with a number. -/
inductive NumeralFault where
  /-- A character that no number has at its place. -/
  | invalid
  /-- The text ends before the number does. -/
  | cut
  deriving DecidableEq, Repr

namespace Numeral

/-- The digits at the start of a text, and what follows them. -/
def digits : List Symbol → List Char × List Symbol
  | .char c :: r =>
    if Number.isDigit c then
      let (ds, rest) := digits r
      (c :: ds, rest)
    else ([], .char c :: r)
  | r => ([], r)

/-- One or more digits, and what follows them. -/
def someDigits (s : List Symbol) : Except NumeralFault (List Char × List Symbol) :=
  match digits s with
  | ([], []) => .error .cut
  | ([], _ :: _) => .error .invalid
  | found => .ok found

/-- The digits before the point: a single zero, or digits that start with another one. -/
def splitWhole (s : List Symbol) : Except NumeralFault (List Char × List Symbol) := do
  let (ds, rest) ← someDigits s
  match ds with
  | '0' :: _ :: _ => throw .invalid
  | _ => pure (ds, rest)

/-- The digits after a point, if there is a point. -/
def splitFraction : List Symbol → Except NumeralFault (List Char × List Symbol)
  | .char '.' :: r => someDigits r
  | r => .ok ([], r)

/-- The sign of an exponent, true for a minus, and what follows it. -/
def splitExponentSign : List Symbol → Bool × List Symbol
  | .char '+' :: r => (false, r)
  | .char '-' :: r => (true, r)
  | r => (false, r)

/-- The exponent, if there is a mark of one. -/
def splitExponent : List Symbol → Except NumeralFault (Option (Bool × List Char) × List Symbol)
  | .char c :: r =>
    if c = 'e' ∨ c = 'E' then do
      let (negative, r) := splitExponentSign r
      let (ds, rest) ← someDigits r
      pure (some (negative, ds), rest)
    else .ok (none, .char c :: r)
  | r => .ok (none, r)

/-- Splits the number at the start of a text and gives what follows it. -/
def split (s : List Symbol) : Except NumeralFault (Numeral × List Symbol) := do
  let (negative, r) :=
    match s with
    | .char '-' :: r => (true, r)
    | r => (false, r)
  let (whole, r) ← splitWhole r
  let (fraction, r) ← splitFraction r
  let (exponent, r) ← splitExponent r
  pure (⟨negative, whole, fraction, exponent⟩, r)

/-- Appends digits to a number as long as it fits into 64 bits, and tells how many were left
over. -/
def absorb (n : Nat) : List Char → Nat × Nat
  | [] => (n, 0)
  | c :: cs =>
    let next := n * 10 + (Number.digit? c).getD 0
    if 18446744073709551615 < next then (n, (c :: cs).length) else absorb next cs

/-- Multiplies or divides by a power of ten, in steps of at most `10^308`. -/
def scale : Nat → Binary64 → Int → Except SyntaxFault Binary64
  | 0, _, _ => .ok (.zero false)
  | steps + 1, x, e =>
    if -308 ≤ e ∧ e ≤ 308 then
      if 0 ≤ e then
        let y := x * Binary64.ofDecimal false 1 e
        if y.isFinite then .ok y else .error .numberOutOfRange
      else .ok (x / Binary64.ofDecimal false 1 (-e))
    else if x = .zero false then .ok x
    else if 0 ≤ e then .error .numberOutOfRange
    else scale steps (x / Binary64.ofDecimal false 1 308) (e + 308)

/-- The value of the exponent, held within 32 bits; none when its digits alone do not fit. -/
def exponentValue (n : Numeral) (start : Int) : Option Int :=
  match n.exponent with
  | none => some start
  | some (negative, ds) =>
    let e := Number.ofDigits ds
    if 2147483647 < e then none
    else
      some (max (-2147483648) (min (start + if negative then -(e : Int) else e) 2147483647))

/-- The binary64 number of a numeral. -/
def toFloat (n : Numeral) : Except SyntaxFault Binary64 := do
  let (a, dropped) := absorb 0 n.whole
  let (b, rest) := absorb a n.fraction
  let start : Int := (dropped : Int) - ((n.fraction.length - rest : Nat) : Int)
  let magnitude ←
    match n.exponentValue start with
    | some e => scale 4 (Binary64.ofInt b) e
    | none =>
      match n.exponent with
      | some (false, _) => if b = 0 then pure (.zero false) else throw .numberOutOfRange
      | _ => pure (.zero false)
  pure (if n.negative then -magnitude else magnitude)

/-- The value of a numeral. -/
def value (n : Numeral) : Except SyntaxFault NumberValue :=
  let i := Number.ofDigits n.whole
  if n.fraction = [] ∧ n.exponent = none ∧
      (if n.negative then 1 ≤ i ∧ i ≤ 9223372036854775808 else i ≤ 18446744073709551615) then
    .ok (.int (if n.negative then -(i : Int) else i))
  else n.toFloat.map .float

end Numeral
end Json
end CourtDocket
