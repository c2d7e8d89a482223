/-
# JSON values and their two texts

What `format_output` of `docket-cli` prints, compact and with `--pretty`, and `config` with
`--json`; §10.7 of the specification.

A value to be written, with integers and binary64 numbers apart and the members of an object in
order.  `compact` writes it without white space; `indented` puts every item and member on a line
of its own, two spaces deeper than what holds it.  Both write the same strings and numbers:

| value | text |
| --- | --- |
| a string | between quotes; quote, backslash and control characters escaped, all else as it is |
| a number with a fraction | the shortest that reads back, in the layout `FloatLayout.json` |
| an infinity or no number | `null` |
-/

import CourtDocket.Number.FloatText

namespace CourtDocket

/-- A JSON value. -/
inductive Json where
  /-- The word `null`. -/
  | null
  /-- The words `true` and `false`. -/
  | bool (b : Bool)
  /-- A number without a point. -/
  | int (i : Int)
  /-- A number with a point or an exponent. -/
  | float (x : Binary64)
  /-- A string. -/
  | string (s : String)
  /-- A list of values. -/
  | array (items : List Json)
  /-- Named values in order. -/
  | object (members : List (String × Json))

namespace Json

/-- A value that may be missing. -/
def ofOption {α : Type} (f : α → Json) : Option α → Json
  | none => null
  | some a => f a

/-- A 64-bit count. -/
def count (n : Int64) : Json :=
  int n.toInt

/-- A list of strings. -/
def strings (ss : List String) : Json :=
  array (ss.map string)

/-- How one character of a string is written. -/
def escapeChar (c : Char) : List Char :=
  if c = '"' then ['\\', '"']
  else if c = '\\' then ['\\', '\\']
  else if c = '\x08' then ['\\', 'b']
  else if c = '\x0c' then ['\\', 'f']
  else if c = '\n' then ['\\', 'n']
  else if c = '\r' then ['\\', 'r']
  else if c = '\t' then ['\\', 't']
  else if c.toNat < 0x20 then
    ['\\', 'u', '0', '0', Nat.digitChar (c.toNat / 16), Nat.digitChar (c.toNat % 16)]
  else [c]

/-- The text of a string. -/
def stringText (s : String) : List Char :=
  '"' :: (s.toList.flatMap escapeChar ++ ['"'])

/-- The text of an integer. -/
def intText (i : Int) : List Char :=
  (if i < 0 then ['-'] else []) ++ FloatLayout.decimalDigits i.natAbs

/-- The text of a number. -/
def floatText (x : Binary64) : List Char :=
  (FloatLayout.json.write x).toList

/-- Pieces of text with commas between them. -/
def commas : List (List Char) → List Char
  | [] => []
  | [t] => t
  | t :: ts => t ++ ',' :: commas ts

mutual

/-- The text without white space. -/
def compact : Json → List Char
  | null => ['n', 'u', 'l', 'l']
  | bool true => ['t', 'r', 'u', 'e']
  | bool false => ['f', 'a', 'l', 's', 'e']
  | int i => intText i
  | float x => floatText x
  | string s => stringText s
  | array items => '[' :: (commas (compactItems items) ++ [']'])
  | object members => '\x7b' :: (commas (compactMembers members) ++ ['\x7d'])

/-- The texts of the items of a list. -/
def compactItems : List Json → List (List Char)
  | [] => []
  | v :: vs => compact v :: compactItems vs

/-- The texts of the members of an object. -/
def compactMembers : List (String × Json) → List (List Char)
  | [] => []
  | (k, v) :: ms => (stringText k ++ ':' :: compact v) :: compactMembers ms

end

/-- A new line at a given depth. -/
def newline (depth : Nat) : List Char :=
  '\n' :: List.replicate (2 * depth) ' '

/-- A list or an object on several lines; on one when it is empty. -/
def block (depth : Nat) (start stop : Char) (texts : List (List Char)) : List Char :=
  if texts.isEmpty then [start, stop]
  else start :: (commas (texts.map (newline (depth + 1) ++ ·)) ++ newline depth ++ [stop])

mutual

/-- The text on several lines, what holds the value being at `depth`. -/
def indentedAt (depth : Nat) : Json → List Char
  | null => ['n', 'u', 'l', 'l']
  | bool true => ['t', 'r', 'u', 'e']
  | bool false => ['f', 'a', 'l', 's', 'e']
  | int i => intText i
  | float x => floatText x
  | string s => stringText s
  | array items => block depth '[' ']' (indentedItems (depth + 1) items)
  | object members => block depth '\x7b' '\x7d' (indentedMembers (depth + 1) members)

/-- The texts of the items of a list. -/
def indentedItems (depth : Nat) : List Json → List (List Char)
  | [] => []
  | v :: vs => indentedAt depth v :: indentedItems depth vs

/-- The texts of the members of an object. -/
def indentedMembers (depth : Nat) : List (String × Json) → List (List Char)
  | [] => []
  | (k, v) :: ms =>
    (stringText k ++ ':' :: ' ' :: indentedAt depth v) :: indentedMembers depth ms

end

/-- The text on several lines. -/
def indented (v : Json) : List Char :=
  indentedAt 0 v

example : String.ofList (object [("a", array [int 1, null]), ("b", array [])]).compact =
    "\x7b\"a\":[1,null],\"b\":[]\x7d" := by decide +kernel

end Json
end CourtDocket
