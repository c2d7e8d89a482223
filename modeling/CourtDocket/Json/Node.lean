/-
# JSON texts as trees, faults included

`Node.ofSymbols` never fails: it reads a text as a tree in which the place where the text goes
wrong is marked.  Nothing is ever read after such a mark, so the marks are at the end of every
list and object around it.

What a mark means depends on who comes upon it.  A reader of values, a reader that has all the
items it wants, and a skipper of unknown members report the same place with different causes:

| where the list goes wrong | reader | reader that has enough | skipper |
| --- | --- | --- | --- |
| the text ends | `cutList` | `cutList` | `cutList` |
| no comma | `expectedListComma` | `trailingCharacters` | `expectedListComma` |
| a comma, then the end of the list | `trailingComma` | `trailingComma` | `expectedValue` |
| a comma, then the end of the text | `cutValue` | `trailingCharacters` | `cutValue` |
-/

import CourtDocket.Json.Numeral
import CourtDocket.Json.RawString

namespace CourtDocket
namespace Json

/-- Why no value stands where one should. -/
inductive ValueFault where
  /-- The text ends. -/
  | cut
  /-- What stands there starts no value. -/
  | noValue
  /-- A word that is none of the three. -/
  | badWord
  /-- The text ends inside a word. -/
  | cutWord
  /-- A number with a wrong character. -/
  | badNumber
  /-- The text ends inside a number. -/
  | cutNumber
  /-- The name of the member is not followed by a colon. -/
  | noColon
  /-- The text ends after the name of the member. -/
  | cutColon
  deriving DecidableEq, Repr

namespace ValueFault

/-- What a reader of the value reports. -/
def read : ValueFault → SyntaxFault
  | cut => .cutValue
  | noValue => .expectedValue
  | badWord => .expectedWord
  | cutWord => .cutValue
  | badNumber => .invalidNumber
  | cutNumber => .cutValue
  | noColon => .expectedColon
  | cutColon => .cutObject

/-- What a skipper of the value reports. -/
def skip : ValueFault → SyntaxFault
  | cutNumber => .invalidNumber
  | f => f.read

/-- What a reader of one of several words reports, which looks at the first character only. -/
def readWord : ValueFault → SyntaxFault
  | cut => .cutValue
  | noColon => .expectedColon
  | cutColon => .cutObject
  | _ => .expectedValue

end ValueFault

/-- Where a list goes wrong. -/
inductive ListStop where
  /-- The text ends after the start of the list or after an item. -/
  | cut
  /-- An item is followed by neither a comma nor the end of the list. -/
  | noComma
  /-- A comma is followed by the end of the list. -/
  | commaClose
  /-- A comma is followed by the end of the text. -/
  | commaCut
  deriving DecidableEq, Repr

namespace ListStop

/-- What a reader of the next item reports. -/
def read : ListStop → SyntaxFault
  | cut => .cutList
  | noComma => .expectedListComma
  | commaClose => .trailingComma
  | commaCut => .cutValue

/-- What a reader reports that wants no further item. -/
def finish : ListStop → SyntaxFault
  | cut => .cutList
  | noComma => .trailingCharacters
  | commaClose => .trailingComma
  | commaCut => .trailingCharacters

/-- What a skipper reports. -/
def skip : ListStop → SyntaxFault
  | commaClose => .expectedValue
  | s => s.read

end ListStop

/-- Where an object goes wrong between its members. -/
inductive ObjectStop where
  /-- The text ends after the start of the object or after a member. -/
  | cut
  /-- A member is followed by neither a comma nor the end of the object. -/
  | noComma
  /-- A comma is followed by the end of the object. -/
  | commaClose
  /-- A comma is followed by the end of the text. -/
  | commaCut
  deriving DecidableEq, Repr

namespace ObjectStop

/-- What a reader of the next member reports. -/
def read : ObjectStop → SyntaxFault
  | cut => .cutObject
  | noComma => .expectedObjectComma
  | commaClose => .trailingComma
  | commaCut => .cutValue

/-- What a skipper reports. -/
def skip : ObjectStop → SyntaxFault
  | commaClose => .keyMustBeString
  | commaCut => .cutObject
  | s => s.read

end ObjectStop

mutual

/-- What a text holds at the place of a value. -/
inductive Node where
  /-- The word `null`. -/
  | null
  /-- The words `true` and `false`. -/
  | bool (b : Bool)
  /-- A number. -/
  | number (n : Numeral)
  /-- A string, which may be faulty. -/
  | string (t : RawString)
  /-- A list. -/
  | array (items : Items)
  /-- An object. -/
  | object (members : Members)
  /-- No value. -/
  | broken (f : ValueFault)

/-- What a text holds inside a list. -/
inductive Items where
  /-- The end of the list. -/
  | close
  /-- The place where the list goes wrong. -/
  | stop (s : ListStop)
  /-- An item and what follows it. -/
  | item (v : Node) (rest : Items)

/-- What a text holds inside an object. -/
inductive Members where
  /-- The end of the object. -/
  | close
  /-- The place where the object goes wrong. -/
  | stop (s : ObjectStop)
  /-- Something else than a string where a name should stand. -/
  | noKey (found : Node)
  /-- A member and what follows it. -/
  | member (key : RawString) (v : Node) (rest : Members)

end

/-- Whether a symbol is white space between tokens. -/
def Symbol.isSpace : Symbol → Bool
  | char c => c = ' ' || c = '\n' || c = '\t' || c = '\r'
  | stray _ => false

/-- Drops the white space before the next token. -/
def skipSpace (s : List Symbol) : List Symbol :=
  s.dropWhile Symbol.isSpace

/-- Reads the rest of a word and gives what follows it. -/
def readWord (v : Node) : List Char → List Symbol → Node × List Symbol
  | [], s => (v, s)
  | _ :: _, [] => (.broken .cutWord, [])
  | c :: cs, x :: s => if x = .char c then readWord v cs s else (.broken .badWord, [])

/-- Reads a number and gives what follows it. -/
def readNumber (s : List Symbol) : Node × List Symbol :=
  match Numeral.split s with
  | .ok (n, rest) => (.number n, rest)
  | .error .invalid => (.broken .badNumber, [])
  | .error .cut => (.broken .cutNumber, [])

mutual

/-- Reads the value at the start of a text and gives what follows it, in at most `fuel` steps. -/
def readNode : Nat → List Symbol → Node × List Symbol
  | 0, _ => (.broken .cut, [])
  | fuel + 1, s =>
    match skipSpace s with
    | [] => (.broken .cut, [])
    | .stray _ :: _ => (.broken .noValue, [])
    | .char c :: r =>
      if c = '"' then
        let (t, rest) := RawString.split r
        (.string t, rest)
      else if c = '[' then
        let (items, rest) := readItems fuel true r
        (.array items, rest)
      else if c = '\x7b' then
        let (members, rest) := readMembers fuel true r
        (.object members, rest)
      else if c = 'n' then readWord .null ['u', 'l', 'l'] r
      else if c = 't' then readWord (.bool true) ['r', 'u', 'e'] r
      else if c = 'f' then readWord (.bool false) ['a', 'l', 's', 'e'] r
      else if c = '-' ∨ Number.isDigit c then readNumber (.char c :: r)
      else (.broken .noValue, [])

/-- Reads what follows the start of a list, or one of its items. -/
def readItems : Nat → Bool → List Symbol → Items × List Symbol
  | 0, _, _ => (.stop .cut, [])
  | fuel + 1, atStart, s =>
    match skipSpace s with
    | [] => (.stop .cut, [])
    | x :: r =>
      if x = .char ']' then (.close, r)
      else if atStart then
        let (v, r) := readNode fuel (x :: r)
        let (items, rest) := readItems fuel false r
        (.item v items, rest)
      else if x = .char ',' then
        match skipSpace r with
        | [] => (.stop .commaCut, [])
        | y :: r =>
          if y = .char ']' then (.stop .commaClose, [])
          else
            let (v, r) := readNode fuel (y :: r)
            let (items, rest) := readItems fuel false r
            (.item v items, rest)
      else (.stop .noComma, [])

/-- Reads what follows the start of an object, or one of its members. -/
def readMembers : Nat → Bool → List Symbol → Members × List Symbol
  | 0, _, _ => (.stop .cut, [])
  | fuel + 1, atStart, s =>
    match skipSpace s with
    | [] => (.stop .cut, [])
    | x :: r =>
      if x = .char '\x7d' then (.close, r)
      else if atStart then readMember fuel (x :: r)
      else if x = .char ',' then
        match skipSpace r with
        | [] => (.stop .commaCut, [])
        | y :: r =>
          if y = .char '\x7d' then (.stop .commaClose, []) else readMember fuel (y :: r)
      else (.stop .noComma, [])

/-- Reads a member and what follows it. -/
def readMember : Nat → List Symbol → Members × List Symbol
  | 0, _ => (.stop .cut, [])
  | fuel + 1, s =>
    match s with
    | [] => (.stop .cut, [])
    | x :: r =>
      if x = .char '"' then
        let (key, r) := RawString.split r
        match skipSpace r with
        | [] => (.member key (.broken .cutColon) (.stop .cut), [])
        | y :: r =>
          if y = .char ':' then
            let (v, r) := readNode fuel r
            let (members, rest) := readMembers fuel false r
            (.member key v members, rest)
          else (.member key (.broken .noColon) (.stop .cut), [])
      else (.noKey (readNode fuel (x :: r)).1, [])

end

mutual

/-- The fault of a value that is only skipped. -/
def Node.skip : Node → Except SyntaxFault Unit
  | .string t => t.skip
  | .array items => items.skip
  | .object members => members.skip
  | .broken f => .error f.skip
  | _ => .ok ()

/-- The fault of the rest of a list that is only skipped. -/
def Items.skip : Items → Except SyntaxFault Unit
  | .close => .ok ()
  | .stop s => .error s.skip
  | .item v rest =>
    match v.skip with
    | .ok () => rest.skip
    | .error e => .error e

/-- The fault of the rest of an object that is only skipped. -/
def Members.skip : Members → Except SyntaxFault Unit
  | .close => .ok ()
  | .stop s => .error s.skip
  | .noKey _ => .error .keyMustBeString
  | .member key v rest =>
    match key.skip with
    | .ok () =>
      match v.skip with
      | .ok () => rest.skip
      | .error e => .error e
    | .error e => .error e

end

/-- The tree of a text, and whether anything but white space follows it. -/
def Node.ofSymbols (s : List Symbol) : Node × Bool :=
  let (v, rest) := readNode (3 * s.length + 3) s
  (v, !(skipSpace rest).isEmpty)

/-- The tree of a text, and whether anything but white space follows it. -/
def Node.ofString (s : String) : Node × Bool :=
  Node.ofSymbols (Symbol.ofString s)

end Json
end CourtDocket
