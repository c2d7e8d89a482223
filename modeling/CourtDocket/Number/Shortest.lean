/-
# The shortest decimal that reads back

A finite binary64 datum `m · 2^e` is the nearest datum of every real in an interval around it:
half a unit to each side, a quarter below a power of two, the ends belonging to it when `m` is
even.  `shortest` looks for a decimal in that interval on the grids of `1, 2, … 17` significant
digits.  If a grid has a point in the interval, one of the two neighbours of the value on that
grid is one, so only these are tried; of two, the nearer is taken, and the even one if they are
equally near.
-/

import CourtDocket.Number.Binary64

namespace CourtDocket

/-- The number `digits · 10^exponent`. -/
structure Decimal where
  /-- The digits, read as one number. -/
  digits : Nat
  /-- The place of the last digit. -/
  exponent : Int
  deriving DecidableEq, Repr

namespace Decimal

/-- The value of a decimal. -/
def toRat (d : Decimal) : Rat :=
  (d.digits : Rat) * pow10 d.exponent

/-- The same number without zeros at its end. -/
def stripZeros (d : Decimal) : Decimal :=
  if h : d.digits ≠ 0 ∧ d.digits % 10 = 0 then
    stripZeros ⟨d.digits / 10, d.exponent + 1⟩
  else d
  termination_by d.digits
  decreasing_by
    show d.digits / 10 < d.digits
    omega

/-- Whether a rational has `m · 2^e` as its nearest datum. -/
def readsBackAs (m : Nat) (e : Int) (x : Rat) : Bool :=
  let v := (m : Rat) * pow2 e
  let below := if m = 4503599627370496 ∧ e ≠ -1074 then pow2 (e - 2) else pow2 (e - 1)
  let above := pow2 (e - 1)
  if m % 2 = 0 then v - below ≤ x && x ≤ v + above else v - below < x && x < v + above

/-- The place of the first digit of a positive rational: `10^k ≤ x < 10^(k+1)`. -/
def leadingPlace (x : Rat) : Int :=
  let k := log2Floor x * 30103 / 100000
  if x < pow10 k then k - 1 else if pow10 (k + 1) ≤ x then k + 1 else k

/-- The decimal with `n + 1` digits that reads back as `m · 2^e` and is nearest to it, if there
is one. -/
def nearestWith (m : Nat) (e : Int) (n : Nat) : Option Decimal :=
  let v := (m : Rat) * pow2 e
  let k := leadingPlace v - (n : Int)
  let scaled := v / pow10 k
  let q := scaled.floor.toNat
  let down := readsBackAs m e ((q : Rat) * pow10 k)
  let up := readsBackAs m e (((q + 1 : Nat) : Rat) * pow10 k)
  if down && up then some ⟨(roundHalfEven scaled).toNat, k⟩
  else if down then some ⟨q, k⟩
  else if up then some ⟨q + 1, k⟩
  else none

/-- The decimal with the fewest digits that reads back as `m · 2^e`, for a positive `m`. -/
def shortest (m : Nat) (e : Int) : Decimal :=
  (((List.range 17).findSome? (nearestWith m e)).getD ⟨m, e⟩).stripZeros

end Decimal
end CourtDocket
