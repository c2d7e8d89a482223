/-
# Spellings of an instant

`parse`, `parse_optional` and `parse_naive` of `Timestamp` in `docket-core`, with the calendar forms
under them; §10.6 (9) of the specification.

Published times come in four forms.

* The strict form of RFC 3339: `2026-01-15T12:00:00.250+05:30`, every number in its full width,
  `T`, `t` or a space between date and time, `Z` or an offset at the end.
* Date and time without a zone, taken as UTC: `2026-1-5T9:05:07.5`.
* A date alone, taken as midnight UTC.
* The relaxed form of RFC 3339, in which white space may stand between the parts, numbers may be
  short, a year may have a sign, and `UTC` may stand for the offset.

`Timestamp.parse` reads the first three and cuts the result to milliseconds; when it fails, it
tells what was wrong with the text as a strict RFC 3339 time.  `Timestamp.readRelaxed` reads the
fourth and keeps every digit down to the nanosecond.
-/

import CourtDocket.Text.Quoted
import CourtDocket.Time.Timestamp

namespace CourtDocket

/-- Why a text is not a time. -/
inductive TimeFault where
  /-- The text ends too early. -/
  | tooShort
  /-- Something else than expected stands in the text. -/
  | invalid
  /-- A number is outside the range of its place. -/
  | outOfRange
  /-- Something follows the time. -/
  | tooLong
  /-- The instant is outside the calendar's range. -/
  | impossible
  deriving DecidableEq, Repr

/-- The wording of a fault. -/
def TimeFault.message : TimeFault → String
  | tooShort => "premature end of input"
  | invalid => "input contains invalid characters"
  | outOfRange => "input is out of range"
  | tooLong => "trailing input"
  | impossible => "no possible date and time matching input"

/-- A reader of the start of a text, which gives what it read and what is left. -/
abbrev TimeScan (α : Type) :=
  StateT (List Char) (Except TimeFault) α

namespace TimeScan

/-- The characters that are left. -/
def left : TimeScan (List Char) := get

/-- Reads one given character. -/
def literal (c : Char) : TimeScan Unit := do
  match ← left with
  | [] => throw .tooShort
  | d :: cs => if d = c then set cs else throw .invalid

/-- Reads exactly `n` digits after the number `value`. -/
def fixedDigits : Nat → Nat → TimeScan Nat
  | value, 0 => pure value
  | value, n + 1 => do
    match ← left with
    | [] => throw .tooShort
    | c :: cs =>
      match Number.digit? c with
      | none => throw .invalid
      | some d => do
        set cs
        fixedDigits (value * 10 + d) n

/-- Reads the digits at the start of a text, at most `n` of them, after the number `value`. -/
def digitsUpTo (value : Nat) : Nat → List Char → Except TimeFault (Nat × List Char)
  | 0, cs => .ok (value, cs)
  | _ + 1, [] => .ok (value, [])
  | n + 1, c :: cs =>
    match Number.digit? c with
    | none => .ok (value, c :: cs)
    | some d =>
      if 9223372036854775807 < value * 10 + d then .error .outOfRange
      else digitsUpTo (value * 10 + d) n cs

/-- Reads one to `n` digits. -/
def number (n : Nat) : TimeScan Nat := do
  match ← left with
  | [] => throw .tooShort
  | c :: cs =>
    if Number.isDigit c then
      match digitsUpTo 0 n (c :: cs) with
      | .ok (value, rest) => do
        set rest
        pure value
      | .error e => throw e
    else throw .invalid

/-- Drops the white space at the start. -/
def skipBlanks : TimeScan Unit :=
  modify Text.trimStart

/-- Reads the digits below the second and gives nanoseconds; digits past the ninth count for
nothing. -/
def fraction : TimeScan Nat := do
  let before ← left
  let value ← number 9
  let after ← left
  set (after.dropWhile Number.isDigit)
  pure (value * Nat.pow 10 (9 - (before.length - after.length)))

/-- Reads a point and digits below the second, if a point is next. -/
def optionalFraction : TimeScan Nat := do
  match ← left with
  | '.' :: cs => do
    set cs
    fraction
  | _ => pure 0

/-- Refuses a number outside a range. -/
def within (low high : Nat) (n : Nat) : TimeScan Nat :=
  if low ≤ n ∧ n ≤ high then pure n else throw .outOfRange

/-- Reads two digits, the first one at most five when `limited`. -/
def offsetPair (limited : Bool) : TimeScan Nat := do
  match ← left with
  | c :: d :: cs =>
    match Number.digit? c, Number.digit? d with
    | some m, some n => do
      if limited ∧ 5 < m then throw .outOfRange
      set cs
      pure (m * 10 + n)
    | _, _ => throw .invalid
  | [c] => if c.utf8Size < 2 then throw .tooShort else throw .invalid
  | [] => throw .tooShort

/-- Reads `Z`, or a sign, hours, a separator and minutes, and gives seconds east of UTC. -/
def offset (separator : TimeScan Unit) : TimeScan Int := do
  match ← left with
  | [] => throw .tooShort
  | c :: cs =>
    if c = 'Z' ∨ c = 'z' then do
      set cs
      pure 0
    else if c = '+' ∨ c = '-' ∨ c = '−' then do
      set cs
      let hours ← offsetPair false
      separator
      let minutes ← offsetPair true
      let seconds : Int := hours * 3600 + minutes * 60
      pure (if c = '+' then seconds else -seconds)
    else throw .invalid

/-- Refuses anything that is left. -/
def finished : TimeScan Unit := do
  if (← left).isEmpty then pure () else throw .tooLong

end TimeScan

/-- The hour, minute, second and nanosecond of a day; second 60 is a leap second. -/
structure TimeOfDay where
  /-- The hour, from zero. -/
  hour : Nat
  /-- The minute, from zero. -/
  minute : Nat
  /-- The second, from zero. -/
  second : Nat
  /-- The nanosecond. -/
  nano : Nat
  deriving DecidableEq, Repr

namespace TimeOfDay

/-- Midnight. -/
def midnight : TimeOfDay := ⟨0, 0, 0, 0⟩

/-- Whether a day has the time. -/
def isValid (t : TimeOfDay) : Bool :=
  t.hour < 24 ∧ t.minute < 60 ∧ t.second ≤ 60 ∧ t.nano < 1000000000

end TimeOfDay

namespace Timestamp

/-- The instant of a date and a time of day at an offset in seconds east of UTC. -/
def ofCivil? (date : Date) (time : TimeOfDay) (offset : Int) : Option Timestamp :=
  let leap := time.second = 60
  ofSeconds?
    (date.toDays * 86400 + time.hour * 3600 + time.minute * 60 +
      (if leap then 59 else time.second) - offset)
    (time.nano + if leap then 1000000000 else 0)

open TimeScan

/-- Gives the instant of what was read, if the calendar has it. -/
def scanned (date : Date) (time : TimeOfDay) (offset : Int) : TimeScan Timestamp := do
  if !date.isValid || !time.isValid || offset ≤ -86400 || 86400 ≤ offset then throw .outOfRange
  match ofCivil? date time offset with
  | some t => pure t
  | none => throw .impossible

/-- Reads the strict form of RFC 3339. -/
def scanStrict : TimeScan Timestamp := do
  let year ← fixedDigits 0 4
  literal '-'
  let month ← fixedDigits 0 2
  literal '-'
  let day ← fixedDigits 0 2
  let date : Date := ⟨year, month, day⟩
  if !date.isValid then throw .outOfRange
  match ← left with
  | [] => throw .tooShort
  | c :: cs => if c = 'T' ∨ c = 't' ∨ c = ' ' then set cs else throw .invalid
  let hour ← fixedDigits 0 2
  literal ':'
  let minute ← fixedDigits 0 2
  literal ':'
  let second ← fixedDigits 0 2
  let nano ← optionalFraction
  let time : TimeOfDay := ⟨hour, minute, second, nano⟩
  if !time.isValid then throw .outOfRange
  let off ← offset (literal ':')
  finished
  scanned date time off

/-- The instant written in the strict form of RFC 3339.  Such a text has at least 19 bytes. -/
def readStrict (cs : List Char) : Except TimeFault Timestamp :=
  if (String.ofList cs).utf8ByteSize < 19 then .error .tooShort
  else (scanStrict.run cs).map (·.1)

/-- Reads a year: at most four digits, any number of them after a sign. -/
def scanYear : TimeScan Int := do
  skipBlanks
  match ← left with
  | '-' :: cs => do
    set cs
    let n ← number cs.length
    if 2147483648 < n then throw .outOfRange
    pure (-(n : Int))
  | '+' :: cs => do
    set cs
    let n ← number cs.length
    if 2147483647 < n then throw .outOfRange
    pure n
  | _ => do
    let n ← number 4
    pure n

/-- Reads a number of one or two digits, white space before it, within a range. -/
def scanPair (low high : Nat) : TimeScan Nat := do
  skipBlanks
  let n ← number 2
  within low high n

/-- Reads a date, with `gap` before each hyphen. -/
def scanDate (gap : TimeScan Unit) : TimeScan Date := do
  let year ← scanYear
  gap
  literal '-'
  let month ← scanPair 1 12
  gap
  literal '-'
  let day ← scanPair 1 31
  pure ⟨year, month, day⟩

/-- Reads a time of day, with `gap` before each colon. -/
def scanTime (gap : TimeScan Unit) : TimeScan TimeOfDay := do
  let hour ← scanPair 0 23
  gap
  literal ':'
  let minute ← scanPair 0 59
  gap
  literal ':'
  let second ← scanPair 0 60
  let nano ← optionalFraction
  pure ⟨hour, minute, second, nano⟩

/-- Reads a date and a time without a zone. -/
def scanZoneless : TimeScan Timestamp := do
  let date ← scanDate (pure ())
  literal 'T'
  let time ← scanTime (pure ())
  finished
  scanned date time 0

/-- Reads a date alone. -/
def scanMidnight : TimeScan Timestamp := do
  let date ← scanDate (pure ())
  finished
  scanned date .midnight 0

/-- The instant that a scan of a whole text gives. -/
def scan? (s : TimeScan Timestamp) (cs : List Char) : Option Timestamp :=
  match s.run cs with
  | .ok (t, _) => some t
  | .error _ => none

/-- The instant written by a date with or without a time, both without a zone. -/
def readZoneless? (cs : List Char) : Option Timestamp :=
  scan? scanZoneless cs <|> scan? scanMidnight cs

/-- Drops colons and white space. -/
def skipSeparators : TimeScan Unit :=
  modify fun cs => cs.dropWhile fun c => c = ':' || Text.isBlankChar c

/-- Reads the relaxed form of RFC 3339. -/
def scanRelaxed : TimeScan Timestamp := do
  let date ← scanDate skipBlanks
  match ← left with
  | [] => throw .tooShort
  | c :: cs => if c = 'T' ∨ c = 't' ∨ c = ' ' then set cs else throw .invalid
  let time ← scanTime skipBlanks
  skipBlanks
  let off ←
    match ← left with
    | a :: b :: c :: cs =>
      if [a, b, c].map Char.toLower = ['u', 't', 'c'] then do
        set cs
        pure 0
      else offset skipSeparators
    | _ => offset skipSeparators
  skipBlanks
  finished
  scanned date time off

/-- The instant written in the relaxed form of RFC 3339. -/
def readRelaxed (s : String) : Except TimeFault Timestamp :=
  (scanRelaxed.run s.toList).map (·.1)

/-- The instant that a published text stands for, in whole milliseconds; otherwise what is wrong
with it as a time in the strict form. -/
def parse (s : String) : Except TimeFault Timestamp :=
  let cs := Text.trimChars s.toList
  match readStrict cs with
  | .ok t => .ok t.truncate
  | .error fault =>
    match readZoneless? cs with
    | some t => .ok t.truncate
    | none => .error fault

/-- The instant of a text that may be missing, blank or malformed, all of which count as no
time. -/
def parseOptional : Option String → Option Timestamp
  | none => none
  | some s => if Text.isBlank s then none else (parse s).toOption

end Timestamp

/-- Why there is no instant for a value. -/
inductive TimestampError where
  /-- The text writes none. -/
  | malformed (text : String) (fault : TimeFault)
  /-- The milliseconds are outside the calendar's range. -/
  | millisOutOfRange (ms : Int)
  deriving DecidableEq, Repr

/-- The wording of an error. -/
def TimestampError.message : TimestampError → String
  | malformed text fault => "invalid timestamp: " ++ Text.quoted text ++ ": " ++ fault.message
  | millisOutOfRange ms => "invalid timestamp: epoch millis " ++ toString ms ++ " out of range"

end CourtDocket
