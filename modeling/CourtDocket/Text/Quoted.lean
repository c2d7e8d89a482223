/-
# Quoted texts

How the errors of `docket-core` and `docket-view` quote what they reject, §10.2 of the
specification.

The way a rejected value appears in a message: between double quotes, on one line, with nothing
invisible in it.  The quote, the backslash, the tab, the line feed, the carriage return and the
zero character have short escapes; every other character of `unshownRanges` is written as its
code point in lower-case hexadecimal, as in `\u{200b}`; all others stand for themselves.
-/

import CourtDocket.Text.Blank
import CourtDocket.Text.Unshown

namespace CourtDocket
namespace Text

/-- The digits of a number in lower-case hexadecimal. -/
def hexDigits (n : Nat) : List Char :=
  Nat.toDigits 16 n

/-- How one character appears in a quoted text. -/
def escapeChar (c : Char) : List Char :=
  if c = '\x00' then ['\\', '0']
  else if c = '\t' then ['\\', 't']
  else if c = '\r' then ['\\', 'r']
  else if c = '\n' then ['\\', 'n']
  else if c = '\\' then ['\\', '\\']
  else if c = '"' then ['\\', '"']
  else if inRanges unshownRanges c.toNat then ['\\', 'u', '\x7b'] ++ hexDigits c.toNat ++ ['\x7d']
  else [c]

/-- A text between double quotes, with nothing invisible in it. -/
def quoted (s : String) : String :=
  String.ofList (['"'] ++ s.toList.flatMap escapeChar ++ ['"'])

end Text
end CourtDocket
