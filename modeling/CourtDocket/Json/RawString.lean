/-
# Strings as they stand in a JSON text

Between its quotes a string is a sequence of pieces: characters, stray bytes, short escapes and
escaped UTF-16 units.  What spoils a string depends on who asks.

* Whoever wants the text (`RawString.text`) needs the units of a pair next to each other and
  every byte in a character.
* Whoever only skips it (`RawString.skip`) is content with well-formed escapes.

So a string is first split into pieces, together with the way it ends, and both questions are
asked of that.
-/

import CourtDocket.Json.Fault
import CourtDocket.Json.Symbol
import CourtDocket.Number.Digit

namespace CourtDocket
namespace Json

/-- A part of a string. -/
inductive Piece where
  /-- A character that stands for itself. -/
  | char (c : Char)
  /-- A byte that is part of no character. -/
  | stray
  /-- A character written as a backslash and a letter. -/
  | short (c : Char)
  /-- A UTF-16 unit written in hexadecimal. -/
  | unit (n : Nat)
  deriving DecidableEq, Repr

/-- How a string ends. -/
inductive StringEnd where
  /-- With a quote. -/
  | closed
  /-- With the end of the text. -/
  | cut
  /-- At a backslash that starts no escape. -/
  | badEscape
  /-- At an escape whose digits are not hexadecimal. -/
  | badUnit
  /-- At a control character. -/
  | control
  deriving DecidableEq, Repr

/-- A string as it stands in a text. -/
structure RawString where
  /-- Its parts, up to where it ends. -/
  pieces : List Piece
  /-- How it ends. -/
  ending : StringEnd
  deriving DecidableEq, Repr

/-- The value of a symbol that is a hexadecimal digit. -/
def Symbol.hexDigit? : Symbol → Option Nat
  | char c => Number.hexDigit? c
  | stray _ => none

/-- The unit written by four hexadecimal digits. -/
def unit? (a b c d : Symbol) : Option Nat :=
  match a.hexDigit?, b.hexDigit?, c.hexDigit?, d.hexDigit? with
  | some a, some b, some c, some d => some (((a * 16 + b) * 16 + c) * 16 + d)
  | _, _, _, _ => none

/-- The character of a short escape. -/
def shortEscape? (c : Char) : Option Char :=
  if c = '"' ∨ c = '\\' ∨ c = '/' then some c
  else if c = 'b' then some '\x08'
  else if c = 'f' then some '\x0c'
  else if c = 'n' then some '\n'
  else if c = 'r' then some '\r'
  else if c = 't' then some '\t'
  else none

namespace RawString

/-- The string with one more piece at its start. -/
def cons (p : Piece) (t : RawString) : RawString :=
  { t with pieces := p :: t.pieces }

/-- Splits the string at the start of a text, its first quote already read, and gives what
follows its last one. -/
def split : List Symbol → RawString × List Symbol
  | [] => (⟨[], .cut⟩, [])
  | .stray _ :: r =>
    let (t, rest) := split r
    (t.cons .stray, rest)
  | .char c :: r =>
    if c = '"' then (⟨[], .closed⟩, r)
    else if c = '\\' then
      match r with
      | [] => (⟨[], .cut⟩, [])
      | .stray _ :: _ => (⟨[], .badEscape⟩, [])
      | .char e :: r =>
        if e = 'u' then
          if Symbol.sizes (r.take 4) < 4 then (⟨[], .cut⟩, [])
          else
            match r with
            | w :: x :: y :: z :: r =>
              match unit? w x y z with
              | some n =>
                let (t, rest) := split r
                (t.cons (.unit n), rest)
              | none => (⟨[], .badUnit⟩, [])
            | _ => (⟨[], .badUnit⟩, [])
        else
          match shortEscape? e with
          | some x =>
            let (t, rest) := split r
            (t.cons (.short x), rest)
          | none => (⟨[], .badEscape⟩, [])
    else if c.toNat < 0x20 then (⟨[], .control⟩, [])
    else
      let (t, rest) := split r
      (t.cons (.char c), rest)

/-- The fault of a string that is only skipped. -/
def skip (t : RawString) : Except SyntaxFault Unit :=
  match t.ending with
  | .closed => .ok ()
  | .cut => .error .cutString
  | .badEscape => .error .invalidEscape
  | .badUnit => .error .invalidEscape
  | .control => .error .controlCharacter

/-- Whether a unit is the first of a pair. -/
def isLeading (n : Nat) : Bool :=
  0xD800 ≤ n && n < 0xDC00

/-- Whether a unit is the second of a pair. -/
def isTrailing (n : Nat) : Bool :=
  0xDC00 ≤ n && n < 0xE000

/-- The character of a pair of units. -/
def pair (a b : Nat) : Char :=
  Char.ofNat ((a - 0xD800) * 0x400 + (b - 0xDC00) + 0x10000)

/-- The characters of the pieces of a string, a stray byte standing for none. -/
def chars (ending : StringEnd) : List Piece → Except SyntaxFault (List (Option Char))
  | [] => (skip ⟨[], ending⟩).map fun _ => []
  | .char c :: r => (chars ending r).map (some c :: ·)
  | .stray :: r => (chars ending r).map (none :: ·)
  | .short c :: r => (chars ending r).map (some c :: ·)
  | .unit n :: r =>
    if isTrailing n then .error .loneSurrogate
    else if isLeading n then
      match r with
      | .unit m :: r =>
        if isTrailing m then (chars ending r).map (some (pair n m) :: ·)
        else .error .loneSurrogate
      | _ :: _ => .error .unpairedEscape
      | [] =>
        match ending with
        | .cut => .error .cutString
        | .badUnit => .error .invalidEscape
        | _ => .error .unpairedEscape
    else (chars ending r).map (some (Char.ofNat n) :: ·)

/-- The text of a string. -/
def text (t : RawString) : Except SyntaxFault String := do
  let cs ← chars t.ending t.pieces
  match cs.mapM id with
  | some cs => pure (String.ofList cs)
  | none => throw .invalidCharacter

end RawString
end Json
end CourtDocket
