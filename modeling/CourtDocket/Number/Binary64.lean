/-
# Binary floating point with 53 significant bits

The arithmetic of the ratios, the rings and the colours, with `clamp_unit` of the component
`countdown` of `docket-view`; §4.1 and §4.4 of the specification.

IEEE 754 binary64 on exact rationals.  A finite datum is a sign, a mantissa below `2^53` and an
exponent; its value is `± mantissa · 2^exponent`.  The mantissa has its highest bit set, or the
exponent is the lowest one, so a value has one datum (zero has two, one for each sign).

Every operation is the exact one on `Rat` followed by `round`: the nearest datum, the one with an
even mantissa when two are equally near, an infinity when the magnitude reaches
`(2^53 - 1/2) · 2^971`.
-/

namespace CourtDocket

/-- Two to an integer power. -/
def pow2 (e : Int) : Rat :=
  if 0 ≤ e then (Nat.pow 2 e.toNat : Rat) else 1 / (Nat.pow 2 (-e).toNat : Rat)

/-- Ten to an integer power. -/
def pow10 (e : Int) : Rat :=
  if 0 ≤ e then (Nat.pow 10 e.toNat : Rat) else 1 / (Nat.pow 10 (-e).toNat : Rat)

/-- The exponent of the binade of a positive rational: `2^k ≤ x < 2^(k+1)`. -/
def log2Floor (x : Rat) : Int :=
  let k := (x.num.natAbs.log2 : Int) - (x.den.log2 : Int)
  if pow2 k ≤ x then k else k - 1

/-- The nearest integer, the even one of two equally near. -/
def roundHalfEven (x : Rat) : Int :=
  let f := x.floor
  if x - f < 1 / 2 then f
  else if 1 / 2 < x - f then f + 1
  else if f % 2 = 0 then f
  else f + 1

/-- The nearest integer, the one farther from zero of two equally near. -/
def roundHalfAway (x : Rat) : Int :=
  if 0 ≤ x then (x + 1 / 2).floor else -((-x + 1 / 2).floor)

/-- The mantissas and exponents of finite data: a mantissa below `2^53`, and from `2^52` on unless
the exponent is the lowest one. -/
def Canonical (mantissa : Nat) (exponent : Int) : Prop :=
  mantissa < 9007199254740992 ∧ -1074 ≤ exponent ∧ exponent ≤ 971 ∧
    (4503599627370496 ≤ mantissa ∨ exponent = -1074)

instance (m : Nat) (e : Int) : Decidable (Canonical m e) := by
  unfold Canonical; infer_instance

/-- A datum of the format binary64. -/
inductive Binary64 where
  /-- No number. -/
  | nan
  /-- Beyond every finite datum, on the given side. -/
  | infinite (negative : Bool)
  /-- The number `± mantissa · 2^exponent`. -/
  | finite (negative : Bool) (mantissa : Nat) (exponent : Int)
      (canonical : Canonical mantissa exponent)
  deriving DecidableEq

namespace Binary64

/-- The zero of the given sign. -/
def zero (negative : Bool) : Binary64 :=
  finite negative 0 (-1074) (by decide)

/-- The number one. -/
def one : Binary64 :=
  finite false 4503599627370496 (-52) (by decide)

/-- The number one half. -/
def half : Binary64 :=
  finite false 4503599627370496 (-53) (by decide)

/-- The number two. -/
def two : Binary64 :=
  finite false 4503599627370496 (-51) (by decide)

instance : Inhabited Binary64 := ⟨zero false⟩

/-- The number that a finite datum stands for; zero for the others. -/
def toRat : Binary64 → Rat
  | finite negative m e _ => (if negative then -1 else 1) * (m : Rat) * pow2 e
  | _ => 0

/-- Whether a datum is a number. -/
def isFinite : Binary64 → Bool
  | finite .. => true
  | _ => false

/-- The datum of a mantissa of at most `2^53` and an exponent: a full mantissa moves into the
next binade, and what lies beyond the last binade is infinite. -/
def pack (negative : Bool) (mantissa : Nat) (exponent : Int) : Binary64 :=
  if h : Canonical mantissa exponent then finite negative mantissa exponent h
  else if h : Canonical (mantissa / 2) (exponent + 1) then
    finite negative (mantissa / 2) (exponent + 1) h
  else infinite negative

/-- The datum nearest to a positive magnitude. -/
def roundMagnitude (negative : Bool) (x : Rat) : Binary64 :=
  let e := max (log2Floor x - 52) (-1074)
  pack negative (roundHalfEven (x / pow2 e)).toNat e

/-- The datum nearest to a rational; an exact zero takes the given sign. -/
def round (negativeZero : Bool) (x : Rat) : Binary64 :=
  if x < 0 then roundMagnitude true (-x)
  else if 0 < x then roundMagnitude false x
  else zero negativeZero

/-- The datum nearest to an integer. -/
def ofInt (i : Int) : Binary64 :=
  round false (i : Rat)

/-- The datum nearest to `± digits · 10^exponent`.  Far outside the range of the format the
answer does not depend on the digits, so no large power is formed. -/
def ofDecimal (negative : Bool) (digits : Nat) (exponent : Int) : Binary64 :=
  if digits = 0 then zero negative
  else
    let places := exponent + ((Nat.toDigits 10 digits).length : Int)
    if 400 < places then infinite negative
    else if places < -400 then zero negative
    else roundMagnitude negative ((digits : Rat) * pow10 exponent)

/-- The datum with the other sign. -/
def neg : Binary64 → Binary64
  | nan => nan
  | infinite s => infinite (!s)
  | finite s m e h => finite (!s) m e h

/-- The rounded sum. -/
def add : Binary64 → Binary64 → Binary64
  | nan, _ => nan
  | _, nan => nan
  | infinite s, infinite t => if s = t then infinite s else nan
  | infinite s, finite .. => infinite s
  | finite .., infinite t => infinite t
  | finite s m e h, finite t n f k =>
    round (s && t) ((finite s m e h).toRat + (finite t n f k).toRat)

/-- The rounded difference. -/
def sub (a b : Binary64) : Binary64 :=
  add a (neg b)

/-- The rounded product. -/
def mul : Binary64 → Binary64 → Binary64
  | nan, _ => nan
  | _, nan => nan
  | infinite s, infinite t => infinite (s != t)
  | infinite s, finite t n _ _ => if n = 0 then nan else infinite (s != t)
  | finite s m _ _, infinite t => if m = 0 then nan else infinite (s != t)
  | finite s m e h, finite t n f k =>
    round (s != t) ((finite s m e h).toRat * (finite t n f k).toRat)

/-- The rounded quotient. -/
def div : Binary64 → Binary64 → Binary64
  | nan, _ => nan
  | _, nan => nan
  | infinite _, infinite _ => nan
  | infinite s, finite t _ _ _ => infinite (s != t)
  | finite s _ _ _, infinite t => zero (s != t)
  | finite s m e h, finite t n f k =>
    if n = 0 then (if m = 0 then nan else infinite (s != t))
    else round (s != t) ((finite s m e h).toRat / (finite t n f k).toRat)

instance : Add Binary64 := ⟨add⟩
instance : Sub Binary64 := ⟨sub⟩
instance : Mul Binary64 := ⟨mul⟩
instance : Div Binary64 := ⟨div⟩
instance : Neg Binary64 := ⟨neg⟩

/-- Whether one number is below another; never true of a datum that is no number. -/
def lt : Binary64 → Binary64 → Bool
  | nan, _ => false
  | _, nan => false
  | infinite s, infinite t => s && !t
  | infinite s, finite .. => s
  | finite .., infinite t => !t
  | finite s m e h, finite t n f k => (finite s m e h).toRat < (finite t n f k).toRat

/-- The nearest integer of a finite datum, a half going away from zero, held between `0` and
`255`. -/
def toByte (x : Binary64) : UInt8 :=
  match x with
  | nan => 0
  | infinite negative => if negative then 0 else 255
  | finite .. => UInt8.ofNat (min (roundHalfAway x.toRat) 255).toNat

/-- The datum held between `0` and `1`; what is no number counts as `0`. -/
def clampUnit (x : Binary64) : Binary64 :=
  if x = nan then zero false
  else if x.lt (zero false) then zero false
  else if one.lt x then one
  else x

example : (ofDecimal false 1 (-1)) + (ofDecimal false 2 (-1)) =
    ofDecimal false 30000000000000004 (-17) := by decide +kernel

example : ofInt 9007199254740993 = ofInt 9007199254740992 := by decide +kernel

end Binary64
end CourtDocket
