/-
# Anchors, tags and directives

What stands before a value and before a document.  An anchor is `&name`, an alias `*name`.  A tag
is `!name`, `!handle!name`, `!!name` or `!<name>`; in a name a percent sign and two hexadecimal
digits stand for an octet.  A directive is a line `%YAML 1.2` or `%TAG !handle! stem`.
-/

import CourtDocket.Yaml.Character
import CourtDocket.Yaml.Scalar.Block
import CourtDocket.Yaml.Token

namespace CourtDocket
namespace Yaml

/-- Whether an anchor may be followed by a character. -/
def endsAnchor (c : Char) : Bool :=
  isBlank c || isBreak c || ['?', ':', ',', ']', '\x7d', '%', '@', '\x60'].contains c

/-- The name of the anchor or alias whose mark stands at a place, and the place behind it. -/
def anchorName (c : Cursor) : Except Fault (List Char × Cursor) :=
  let c := c.skip 1
  let name := c.run isWordChar
  let stop := c.skipRun isWordChar
  if name.isEmpty || !stop.rest.head?.all endsAnchor then .error .badAnchor else .ok (name, stop)

/-- Whether a character may stand in the name of a tag; in some places a few more may. -/
def isTagChar (wide : Bool) (c : Char) : Bool :=
  isWordChar c ||
    [';', '/', '?', ':', '@', '&', '=', '+', '$', '.', '%', '!', '~', '*', '\'', '(',
      ')'].contains c ||
    (wide && (c = ',' || c = '[' || c = ']'))

/-- The number of octets of a character that starts with the given one, and the bits in it. -/
def leadingOctet? (n : Nat) : Option (Nat × Nat) :=
  if n < 0x80 then some (1, n)
  else if n / 32 = 6 then some (2, n % 32)
  else if n / 16 = 14 then some (3, n % 16)
  else if n / 8 = 30 then some (4, n % 8)
  else none

/-- The character of a code point written in `width` octets, if these are the fewest. -/
def charOfOctets (width value : Nat) : Char :=
  let least :=
    if width = 1 then 0
    else if width = 2 then 0x80
    else if width = 3 then 0x800
    else 0x10000
  if least ≤ value ∧ value.isValidChar then Char.ofNat value else '\ufffd'

/-- The name of a tag with its octets read; in the middle of a character, with the number of its
octets, of those that are to come and the bits of the others. -/
def readOctets (pending : Option (Nat × Nat × Nat)) : List Char → Except Fault (List Char)
  | '%' :: a :: b :: cs =>
    match Number.hexDigit? a, Number.hexDigit? b with
    | some a, some b =>
      let n := a * 16 + b
      match pending with
      | some (width, left, value) =>
        if n / 64 ≠ 2 then .error .badTrailingOctet
        else
          let value := value * 64 + n % 64
          if 1 < left then readOctets (some (width, left - 1, value)) cs
          else (readOctets none cs).map (charOfOctets width value :: ·)
      | none =>
        match leadingOctet? n with
        | none => .error .badLeadingOctet
        | some (width, value) =>
          if 1 < width then readOctets (some (width, width - 1, value)) cs
          else (readOctets none cs).map (charOfOctets width value :: ·)
    | _, _ => .error .noOctet
  | '%' :: _ => .error .noOctet
  | c :: cs => if pending.isSome then .error .noOctet else (readOctets none cs).map (c :: ·)
  | [] => if pending.isSome then .error .noOctet else .ok []

/-- The name of a tag at a place, of which the characters `before` have been read, and the place
behind it.  A name ends before its first NUL. -/
def tagName (wide : Bool) (before : List Char) (c : Cursor) :
    Except Fault (List Char × Cursor) := do
  let name ← readOctets none (c.run (isTagChar wide))
  if before.isEmpty && name.isEmpty then throw .noTagName
  pure ((before.drop 1 ++ name).takeWhile (· ≠ '\x00'), c.skipRun (isTagChar wide))

/-- The handle at a place, with its exclamation marks, and the place behind it. -/
def tagHandle (declared : Bool) (c : Cursor) : Except Fault (List Char × Cursor) :=
  if c.rest.head? ≠ some '!' then .error .badHandle
  else
    let c := c.skip 1
    let word := c.run isWordChar
    let stop := c.skipRun isWordChar
    if stop.rest.head? = some '!' then .ok ('!' :: word ++ ['!'], stop.skip 1)
    else if declared && !word.isEmpty then .error .badHandle
    else .ok ('!' :: word, stop)

/-- The tag at a place, in front of what follows it. -/
def tagToken (flow : Bool) (c : Cursor) : Except Fault (Token × Cursor) := do
  let (token, stop) ←
    if c.rest.drop 1 |>.head? |> (· = some '<') then do
      let (name, stop) ← tagName true [] (c.skip 2)
      if stop.rest.head? ≠ some '>' then throw .unclosedTag
      pure (Token.tag [] name, stop.skip 1)
    else do
      let (handle, stop) ← tagHandle false c
      if 2 ≤ handle.length && handle.getLast? = some '!' then do
        let (name, stop) ← tagName false [] stop
        pure (Token.tag handle name, stop)
      else do
        let (name, stop) ← tagName false handle stop
        pure (if name.isEmpty then Token.tag [] ['!'] else Token.tag ['!'] name, stop)
  if !(flow && stop.rest.head? = some ',') && !atGap stop.rest then throw .noSpaceAfterTag
  pure (token, stop)

/-- A number of a version, of at most nine digits, and the place behind it. -/
def versionNumber (c : Cursor) : Except Fault (Nat × Cursor) :=
  let digits := c.run Number.isDigit
  if 9 < digits.length then .error .longVersion
  else if digits.isEmpty then .error .noVersion
  else .ok (Number.ofDigits digits, c.skipRun Number.isDigit)

/-- What a version directive declares. -/
def versionDirective (c : Cursor) : Except Fault (Token × Cursor) := do
  let (major, c) ← versionNumber (c.skipRun isBlank)
  if c.rest.head? ≠ some '.' then throw .noVersionPoint
  let (minor, c) ← versionNumber (c.skip 1)
  pure (.version major minor, c)

/-- What a tag directive declares. -/
def tagDirective (c : Cursor) : Except Fault (Token × Cursor) := do
  let (handle, c) ← tagHandle true (c.skipRun isBlank)
  if !c.rest.head?.any isBlank then throw .noSpaceAfterHandle
  let (stem, c) ← tagName true [] (c.skipRun isBlank)
  if !atGap c.rest then throw .noSpaceAfterTag
  pure (.handle handle stem, c)

/-- What the directive at a place declares, and the start of the next line. -/
def directive (c : Cursor) : Except Fault (Token × Cursor) := do
  let c := c.skip 1
  let name := c.run isWordChar
  let c := c.skipRun isWordChar
  if name.isEmpty then throw .noDirectiveName
  if !atGap c.rest then throw .badDirectiveName
  let (token, c) ←
    if name = ['Y', 'A', 'M', 'L'] then versionDirective c
    else if name = ['T', 'A', 'G'] then tagDirective c
    else throw .unknownDirective
  let c := c.skipToLineEnd
  if !atLineEnd c.rest then throw .unfinishedLine
  pure (token, c.skipBreak)

end Yaml
end CourtDocket
