/-
# What a scalar stands for

A plain scalar stands for nothing, a truth value, a number or a text, by its spelling:

| value | spellings |
| --- | --- |
| nothing | none at all, `~`, `null`, `Null`, `NULL` |
| truth values | `true`, `True`, `TRUE`, `false`, `False`, `FALSE` |
| integers | decimal digits, or digits behind `0x`, `0o` and `0b`, with a sign |
| other numbers | decimal ones, and `.inf` and `.nan` in three letter cases |

Digits behind a needless zero are a text, and so is every scalar that is not plain.  One of the
four core tags makes any scalar a value of its kind, or a fault.
-/

import CourtDocket.Number.FloatText
import CourtDocket.Text.Quoted
import CourtDocket.Yaml.Document

namespace CourtDocket
namespace Yaml

/-- What a scalar stands for. -/
inductive Value where
  /-- Nothing. -/
  | null
  /-- A truth value. -/
  | bool (b : Bool)
  /-- An integer. -/
  | int (i : Int)
  /-- A number that is not written as an integer. -/
  | float (x : Binary64)
  /-- A text. -/
  | string (s : List Char)
  deriving DecidableEq

/-- Whether a text spells nothing. -/
def spellsNull (cs : List Char) : Bool :=
  ["~", "null", "Null", "NULL"].any fun w => w.toList = cs

/-- The truth value that a text spells. -/
def readBool? (cs : List Char) : Option Bool :=
  if ["true", "True", "TRUE"].any fun w => w.toList = cs then some true
  else if ["false", "False", "FALSE"].any fun w => w.toList = cs then some false
  else none

/-- The digits of an integer in a base up to sixteen. -/
def readDigits? (base : Nat) (cs : List Char) : Option Nat :=
  let append (n : Nat) (c : Char) : Option Nat := do
    let d ← Number.hexDigit? c
    if d < base then some (n * base + d) else none
  if cs.isEmpty then none else cs.foldlM append 0

/-- Whether a text is digits behind a needless zero and an optional sign. -/
def hasNeedlessZero (cs : List Char) : Bool :=
  let digits := if cs.head? = some '-' || cs.head? = some '+' then cs.drop 1 else cs
  match digits with
  | '0' :: d :: ds => (d :: ds).all Number.isDigit
  | _ => false

/-- The natural number that a text without a sign spells. -/
def readNatural? : List Char → Option Nat
  | '0' :: 'x' :: ds => readDigits? 16 ds
  | '0' :: 'o' :: ds => readDigits? 8 ds
  | '0' :: 'b' :: ds => readDigits? 2 ds
  | cs => if hasNeedlessZero cs then none else readDigits? 10 cs

/-- The integer that a text spells. -/
def readInteger? : List Char → Option Int
  | '-' :: cs => (readNatural? cs).map fun n => -(n : Int)
  | '+' :: cs => (readNatural? cs).map fun n => (n : Int)
  | cs => (readNatural? cs).map fun n => (n : Int)

/-- Whether a text spells an infinity without a sign. -/
def spellsInfinity (cs : List Char) : Bool :=
  [".inf", ".Inf", ".INF"].any fun w => w.toList = cs

/-- The number that a text spells. -/
def readFloat? (cs : List Char) : Option Binary64 :=
  let unsigned := if cs.head? = some '+' then cs.drop 1 else cs
  if [".nan", ".NaN", ".NAN"].any fun w => w.toList = cs then some .nan
  else if spellsInfinity unsigned then some (.infinite false)
  else if cs.head? = some '-' && spellsInfinity (cs.drop 1) then some (.infinite true)
  else if cs.head? = some '+' && (unsigned.head? = some '+' || unsigned.head? = some '-') then none
  else (Number.readFloat? unsigned).filter Binary64.isFinite

/-- The integer of at most 128 bits, from `-2^127` to below `2^128`, that a text spells. -/
def readWideInteger? (cs : List Char) : Option Int :=
  (readInteger? cs).filter fun i =>
    -170141183460469231731687303715884105728 ≤ i &&
      i < 340282366920938463463374607431768211456

/-- What a plain text spells. -/
def spelled (cs : List Char) : Value :=
  if cs.isEmpty || spellsNull cs then .null
  else
    match readBool? cs, readWideInteger? cs with
    | some b, _ => .bool b
    | none, some i => .int i
    | none, none =>
      match if hasNeedlessZero cs then none else readFloat? cs with
      | some x => .float x
      | none => .string cs

/-- A tag of the core kinds. -/
def coreTag (kind : String) : List Char :=
  ("tag:yaml.org,2002:" ++ kind).toList

/-- What a scalar stands for; for one whose text does not suit its tag, what it should be. -/
def Scalar.value (s : Scalar) : Except String Value :=
  let plain := if s.style = .plain then spelled s.text else .string s.text
  match s.tag with
  | none => .ok plain
  | some tag =>
    if tag = coreTag "bool" then
      match readBool? s.text with
      | some b => .ok (.bool b)
      | none => .error "a boolean"
    else if tag = coreTag "int" then
      match readWideInteger? s.text with
      | some i => .ok (.int i)
      | none => .error "an integer"
    else if tag = coreTag "float" then
      match readFloat? s.text with
      | some x => .ok (.float x)
      | none => .error "a float"
    else if tag = coreTag "null" then
      if spellsNull s.text then .ok .null else .error "null"
    else if tag.head? = some '!' then .ok plain
    else .ok (.string s.text)

/-- Numbers are written without an exponent in messages. -/
def messageLayout : FloatLayout :=
  { plainFrom := -400, plainTo := 400, exponentSign := "", nan := "NaN", infinity := "inf"
    negativeInfinity := "-inf" }

/-- The width of an integer beyond 64 bits, as it is told in messages. -/
def widthNote (i : Int) : String :=
  if i < -9223372036854775808 then " as i128"
  else if 18446744073709551615 < i then " as u128"
  else ""

/-- The name of a value in messages. -/
def Value.text : Value → String
  | .null => "unit value"
  | .bool b => "boolean `" ++ (if b then "true" else "false") ++ "`"
  | .int i => "integer `" ++ toString i ++ "`" ++ widthNote i
  | .float x => "floating point `" ++ messageLayout.write x ++ "`"
  | .string s => "string " ++ Text.quoted (String.ofList s)

end Yaml
end CourtDocket
