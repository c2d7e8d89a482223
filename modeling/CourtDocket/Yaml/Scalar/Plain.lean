/-
# Plain and quoted scalars

Both may run over several lines.  The white space inside them is folded: blanks at the end and the
start of a line are dropped, a single line break is a space, and of several all but the first are
kept.  White space within a line is kept.
-/

import CourtDocket.Number.Digit
import CourtDocket.Yaml.Character
import CourtDocket.Yaml.Fault

namespace CourtDocket
namespace Yaml

/-- White space inside a scalar. -/
inductive Gap where
  /-- None. -/
  | none
  /-- Blanks within a line. -/
  | blanks (cs : List Char)
  /-- A line break, none if it is escaped, and those after it. -/
  | broken (first : Option Char) (more : List Char)
  deriving DecidableEq, Repr

namespace Gap

/-- The white space with one blank more. -/
def addBlank (c : Char) : Gap → Gap
  | none => blanks [c]
  | blanks cs => blanks (cs ++ [c])
  | g => g

/-- The white space with one line break more. -/
def addBreak (c : Char) : Gap → Gap
  | broken first more => broken first (more ++ [c])
  | _ => broken (some c) []

/-- What is left of the white space between two parts of a scalar. -/
def fold : Gap → List Char
  | none => []
  | blanks cs => cs
  | broken Option.none more => more
  | broken (some c) more =>
    if c = '\n' then (if more.isEmpty then [' '] else more) else c :: more

/-- Whether a line ends in the white space. -/
def isBroken : Gap → Bool
  | broken .. => true
  | _ => false

end Gap

/-- A scalar and where it ends. -/
structure Lexeme where
  /-- Its text. -/
  text : List Char
  /-- The place behind it. -/
  stop : Cursor
  /-- Whether lines end between its text and that place. -/
  brokenAfter : Bool := false
  deriving DecidableEq, Repr

/-- Whether a character ends a plain scalar inside brackets. -/
def isFlowIndicator (c : Char) : Bool :=
  c = ',' || c = '[' || c = ']' || c = '\x7b' || c = '\x7d'

/-- Whether a colon that something follows spoils a plain scalar inside brackets. -/
def spoilsFlow : List Char → Bool
  | c :: _ => c = '?' || isFlowIndicator c
  | [] => false

/-- Goes on with a plain scalar, `text` and `gap` having been read.  Its lines must be indented by
`indent`, brackets aside. -/
def plainFrom (flow : Bool) (indent : Nat) (text : List Char) (gap : Gap) :
    List Char → Place → Except Fault Lexeme
  | [], p => .ok ⟨text, ⟨p, []⟩, gap.isBroken⟩
  | c :: cs, p =>
    let stop : Lexeme := ⟨text, ⟨p, c :: cs⟩, gap.isBroken⟩
    if isBlank c then
      if c = '\t' && gap.isBroken && p.column < indent then .error .tabInPlain
      else plainFrom flow indent text (gap.addBlank c) cs (p.past c)
    else if isBreak c then plainFrom flow indent text (gap.addBreak c) cs p.nextLine
    else if gap ≠ .none &&
        ((!flow && p.column < indent) || (p.column = 0 && atDocumentMark (c :: cs)) || c = '#') then
      .ok stop
    else if flow && c = ':' && spoilsFlow cs then .error .colonInFlow
    else if (c = ':' && atGap cs) || (flow && isFlowIndicator c) then .ok stop
    else plainFrom flow indent (text ++ gap.fold ++ [c]) .none cs (p.past c)

/-- The plain scalar that starts at a place. -/
def plainScalar (flow : Bool) (indent : Nat) (c : Cursor) : Except Fault Lexeme :=
  plainFrom flow indent [] .none c.rest c.toPlace

/-- The character of an escape that stands for one character. -/
def escape? (c : Char) : Option Char :=
  match c with
  | '0' => some '\x00'
  | 'a' => some '\x07'
  | 'b' => some '\x08'
  | 't' => some '\t'
  | '\t' => some '\t'
  | 'n' => some '\n'
  | 'v' => some '\x0b'
  | 'f' => some '\x0c'
  | 'r' => some '\r'
  | 'e' => some '\x1b'
  | ' ' => some ' '
  | '"' => some '"'
  | '/' => some '/'
  | '\\' => some '\\'
  | 'N' => some '\u0085'
  | '_' => some '\u00a0'
  | 'L' => some '\u2028'
  | 'P' => some '\u2029'
  | _ => none

/-- The number of hexadecimal digits of an escape that stands for a code point. -/
def escapeDigits? (c : Char) : Option Nat :=
  match c with
  | 'x' => some 2
  | 'u' => some 4
  | 'U' => some 8
  | _ => none

/-- Goes on with a quoted scalar, `text` and `gap` having been read; in the middle of an escape,
with the number of its digits that are to come and the value of the others. -/
def quotedFrom (single : Bool) (text : List Char) (gap : Gap) (code : Option (Nat × Nat)) :
    List Char → Place → Except Fault Lexeme
  | [], _ => .error (if code.isSome then .badEscapeDigits else .unclosedQuotes)
  | c :: cs, p =>
    match code with
    | some (n, value) =>
      match Number.hexDigit? c with
      | none => .error .badEscapeDigits
      | some d =>
        let value := value * 16 + d
        if 1 < n then quotedFrom single text gap (some (n - 1, value)) cs (p.past c)
        else if value.isValidChar then
          quotedFrom single (text ++ [Char.ofNat value]) gap none cs (p.past c)
        else .error .badEscapeCode
    | none =>
      if isBlank c then quotedFrom single text (gap.addBlank c) none cs (p.past c)
      else if isBreak c then quotedFrom single text (gap.addBreak c) none cs p.nextLine
      else if gap ≠ .none && p.column = 0 && atDocumentMark (c :: cs) then
        .error .documentInQuotes
      else
        let text := text ++ gap.fold
        if single && c = '\'' then
          match cs with
          | '\'' :: cs => quotedFrom single (text ++ ['\'']) .none none cs (p.pastAll ['\'', '\''])
          | cs => .ok ⟨text, ⟨p.past c, cs⟩, false⟩
        else if !single && c = '"' then .ok ⟨text, ⟨p.past c, cs⟩, false⟩
        else if !single && c = '\\' then
          match cs with
          | [] => .error .unknownEscape
          | e :: cs =>
            if isBreak e then quotedFrom single text (.broken none []) none cs p.nextLine
            else
              match escape? e, escapeDigits? e with
              | some x, _ => quotedFrom single (text ++ [x]) .none none cs (p.pastAll [c, e])
              | none, some n => quotedFrom single text .none (some (n, 0)) cs (p.pastAll [c, e])
              | none, none => .error .unknownEscape
        else quotedFrom single (text ++ [c]) .none none cs (p.past c)

/-- The scalar between quotes that starts at a place. -/
def quotedScalar (single : Bool) (c : Cursor) : Except Fault Lexeme :=
  let c := c.skip 1
  quotedFrom single [] .none none c.rest c.toPlace

end Yaml
end CourtDocket
