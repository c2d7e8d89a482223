/-
# Splitting a YAML text into tokens

Indentation becomes tokens: a list or a mapping starts where its first item or key is indented
more than what holds it, and ends where a line is indented less.

A key is only known by the colon behind it.  So the place where a key could start is remembered;
when a colon comes on the same line, within 1024 octets, the token `key` is put in there.
Inside brackets and braces every level remembers a place of its own.

When the text goes wrong, the tokens before the first such place are known, and those after it are
not: they could still be those of a key.  The blocks of a text that are not taken make it go wrong
where the characters end.
-/

import CourtDocket.Yaml.Property
import CourtDocket.Yaml.Scalar.Block
import CourtDocket.Yaml.Token

namespace CourtDocket
namespace Yaml

/-- A place where a key could start. -/
structure KeyPlace where
  /-- Whether nothing but a key can stand there. -/
  required : Bool
  /-- The number of tokens before it. -/
  before : Nat
  /-- The place itself. -/
  place : Place
  deriving DecidableEq, Repr

/-- The tokens that have been split off a text, and what is known about the rest. -/
structure Scanner where
  /-- The rest of the text. -/
  cursor : Cursor
  /-- The column of the innermost block, below zero outside of all blocks. -/
  indent : Int := -1
  /-- The columns of the blocks around it. -/
  outerIndents : List Int := []
  /-- Where a key could start, at the innermost level of brackets. -/
  place : Option KeyPlace := none
  /-- Where a key could start at the levels around it. -/
  outerPlaces : List (Option KeyPlace) := []
  /-- Whether a key may start at the next token. -/
  keyAllowed : Bool := true
  /-- The tokens in reverse order. -/
  tokens : List (Placed Token) := []
  deriving Repr

namespace Scanner

/-- Whether the next token is inside brackets. -/
def inFlow (s : Scanner) : Bool :=
  !s.outerPlaces.isEmpty

/-- Adds a token that starts here. -/
def push (s : Scanner) (t : Token) : Scanner :=
  { s with tokens := ⟨t, s.cursor.toPlace⟩ :: s.tokens }

/-- Moves on. -/
def moveTo (s : Scanner) (c : Cursor) : Scanner :=
  { s with cursor := c }

/-- Puts tokens in where a key starts. -/
def insertAt (s : Scanner) (k : KeyPlace) (ts : List Token) : Scanner :=
  let after := s.tokens.length - k.before
  let placed := ts.map fun t => ⟨t, k.place⟩
  { s with tokens := s.tokens.take after ++ placed.reverse ++ s.tokens.drop after }

/-- Whether a key that starts at a place cannot be completed any more. -/
def isStale (s : Scanner) (k : KeyPlace) : Bool :=
  k.place.line < s.cursor.line || k.place.octets + 1024 < s.cursor.octets

/-- Forgets a place whose key cannot be completed any more. -/
def freshPlace (s : Scanner) : Option KeyPlace → Except Fault (Option KeyPlace)
  | none => .ok none
  | some k =>
    if s.isStale k then (if k.required then .error .missingColon else .ok none) else .ok (some k)

/-- Forgets the places whose keys cannot be completed any more. -/
def dropStale (s : Scanner) : Except Fault Scanner := do
  pure { s with
    place := ← s.freshPlace s.place
    outerPlaces := ← s.outerPlaces.mapM s.freshPlace }

/-- Forgets where a key could start. -/
def dropPlace (s : Scanner) : Except Fault Scanner :=
  if s.place.any (·.required) then .error .missingColon else .ok { s with place := none }

/-- Remembers that a key could start at the next token. -/
def savePlace (s : Scanner) : Except Fault Scanner :=
  if s.keyAllowed then do
    let here : KeyPlace :=
      { required := !s.inFlow && s.indent = (s.cursor.column : Int)
        before := s.tokens.length
        place := s.cursor.toPlace }
    pure { ← s.dropPlace with place := some here }
  else .ok s

/-- Ends the blocks that are indented more than `column`, which are at most `fuel`. -/
def unroll (column : Int) : Nat → Scanner → Scanner
  | 0, s => s
  | fuel + 1, s =>
    if column < s.indent then
      unroll column fuel
        { s.push .blockEnd with
          indent := s.outerIndents.headD (-1)
          outerIndents := s.outerIndents.drop 1 }
    else s

/-- Ends the blocks that are indented more than `column`. -/
def closeBlocks (s : Scanner) (column : Int) : Scanner :=
  if s.inFlow then s else s.unroll column (s.outerIndents.length + 1)

/-- Whether a block at `column` is a new one. -/
def opensBlock (s : Scanner) (column : Nat) : Bool :=
  !s.inFlow && s.indent < (column : Int)

/-- Starts a block at `column`, without its token. -/
def enterBlock (s : Scanner) (column : Nat) : Scanner :=
  { s with indent := column, outerIndents := s.indent :: s.outerIndents }

/-- Starts a block at the next token, if it is indented more than what holds it. -/
def openBlock (s : Scanner) (start : Token) : Scanner :=
  let column := s.cursor.column
  if s.opensBlock column then (s.enterBlock column).push start else s

/-- Adds a token of `n` characters. -/
def take (s : Scanner) (n : Nat) (t : Token) : Scanner :=
  (s.push t).moveTo (s.cursor.skip n)

/-- Goes over blanks, comments and line breaks, and tells whether a key may start behind them.
Inside brackets, or where no key may start, a tab is a blank; a mark of byte order may start a
line. -/
def skipGap (flow keyAllowed inComment : Bool) : List Char → Place → Bool × Cursor
  | [], p => (keyAllowed, ⟨p, []⟩)
  | c :: cs, p =>
    if isBreak c then skipGap flow (keyAllowed || !flow) false cs p.nextLine
    else if inComment then skipGap flow keyAllowed true cs (p.past c)
    else if c = '#' then skipGap flow keyAllowed true cs (p.past c)
    else if c = ' ' || (c = '\t' && (flow || !keyAllowed)) || (c = '\ufeff' && p.column = 0) then
      skipGap flow keyAllowed false cs (p.past c)
    else (keyAllowed, ⟨p, c :: cs⟩)

/-- Goes to the next token. -/
def toNextToken (s : Scanner) : Scanner :=
  let (keyAllowed, c) :=
    skipGap s.inFlow s.keyAllowed false s.cursor.rest s.cursor.toPlace
  { s with keyAllowed, cursor := c }

/-- Reads the end of the text. -/
def readEnd (s : Scanner) : Except Fault Scanner := do
  let c := s.cursor
  let s := if c.column = 0 then s else s.moveTo ⟨c.nextLine, c.rest⟩
  let s ← (s.closeBlocks (-1)).dropPlace
  pure ({ s with keyAllowed := false }.push .streamEnd)

/-- Reads a directive. -/
def readDirective (s : Scanner) : Except Fault Scanner := do
  let s ← (s.closeBlocks (-1)).dropPlace
  let (token, c) ← directive s.cursor
  pure { s.push token with keyAllowed := false, cursor := c }

/-- Reads the mark of a document. -/
def readDocumentMark (s : Scanner) (t : Token) : Except Fault Scanner := do
  let s ← (s.closeBlocks (-1)).dropPlace
  pure ({ s with keyAllowed := false }.take 3 t)

/-- Reads the start of brackets. -/
def readFlowStart (s : Scanner) (t : Token) : Except Fault Scanner := do
  let s ← s.savePlace
  let s := { s with
    outerPlaces := s.place :: s.outerPlaces
    place := none
    keyAllowed := true }
  pure (s.take 1 t)

/-- Reads the end of brackets. -/
def readFlowEnd (s : Scanner) (t : Token) : Except Fault Scanner := do
  let s ← s.dropPlace
  let s := { s with
    place := s.outerPlaces.headD none
    outerPlaces := s.outerPlaces.drop 1
    keyAllowed := false }
  pure (s.take 1 t)

/-- Reads a comma inside brackets. -/
def readComma (s : Scanner) : Except Fault Scanner := do
  let s ← s.dropPlace
  pure ({ s with keyAllowed := true }.take 1 .comma)

/-- Reads a dash. -/
def readDash (s : Scanner) : Except Fault Scanner := do
  if !s.inFlow && !s.keyAllowed then throw .misplacedEntry
  let s ← (s.openBlock .listStart).dropPlace
  pure ({ s with keyAllowed := true }.take 1 .dash)

/-- Reads the mark of a key. -/
def readKey (s : Scanner) : Except Fault Scanner := do
  if !s.inFlow && !s.keyAllowed then throw .misplacedKey
  let s ← (s.openBlock .mappingStart).dropPlace
  pure ({ s with keyAllowed := !s.inFlow }.take 1 .key)

/-- Reads the colon before a value. -/
def readValue (s : Scanner) : Except Fault Scanner :=
  match s.place with
  | some k =>
    let s :=
      if s.opensBlock k.place.column then
        (s.enterBlock k.place.column).insertAt k [.mappingStart, .key]
      else s.insertAt k [.key]
    .ok ({ s with place := none, keyAllowed := false }.take 1 .value)
  | none =>
    if !s.inFlow && !s.keyAllowed then .error .misplacedValue
    else .ok ({ s.openBlock .mappingStart with keyAllowed := !s.inFlow }.take 1 .value)

/-- Reads an anchor or an alias. -/
def readAnchor (s : Scanner) (t : List Char → Token) : Except Fault Scanner := do
  let s ← s.savePlace
  let (name, c) ← anchorName s.cursor
  pure { s.push (t name) with keyAllowed := false, cursor := c }

/-- Reads a tag. -/
def readTag (s : Scanner) : Except Fault Scanner := do
  let s ← s.savePlace
  let (token, c) ← tagToken s.inFlow s.cursor
  pure { s.push token with keyAllowed := false, cursor := c }

/-- Reads a block scalar. -/
def readBlock (s : Scanner) (style : ScalarStyle) : Except Fault Scanner := do
  let s ← s.dropPlace
  let x ← blockScalar (style = .folded) s.indent s.cursor
  pure { s.push (.scalar style x.text) with keyAllowed := true, cursor := x.stop }

/-- Reads a quoted scalar. -/
def readQuoted (s : Scanner) (single : Bool) : Except Fault Scanner := do
  let s ← s.savePlace
  let x ← quotedScalar single s.cursor
  pure { s.push (.scalar .quoted x.text) with keyAllowed := false, cursor := x.stop }

/-- Reads a plain scalar. -/
def readPlain (s : Scanner) : Except Fault Scanner := do
  let s ← s.savePlace
  let x ← plainScalar s.inFlow (s.indent + 1).toNat s.cursor
  pure { s.push (.scalar .plain x.text) with keyAllowed := x.brokenAfter, cursor := x.stop }

/-- Whether a character is a mark, with which no plain scalar starts by itself. -/
def isIndicator (c : Char) : Bool :=
  ['?', ':', ',', '[', ']', '\x7b', '\x7d', '#', '&', '*', '!', '|', '>', '\'', '"', '%', '@',
    '\x60'].contains c

/-- Whether a plain scalar can start with `c`, the characters `cs` following. -/
def startsPlain (flow : Bool) (c : Char) (cs : List Char) : Bool :=
  if c = '-' then !cs.head?.any isBlank
  else if c = '?' || c = ':' then !flow && !atGap cs
  else !isBlank c && !isBreak c && !isIndicator c

/-- Reads the next token, or the end of the text. -/
def readToken (s : Scanner) : Except Fault Scanner := do
  let s ← s.toNextToken.dropStale
  let s := s.closeBlocks s.cursor.column
  match s.cursor.rest with
  | [] => s.readEnd
  | c :: cs =>
    let atStart := s.cursor.column = 0
    if atStart && c = '%' then s.readDirective
    else if atStart && atDocumentMark (c :: cs) then
      s.readDocumentMark (if c = '-' then .documentStart else .documentEnd)
    else if c = '[' then s.readFlowStart .bracketStart
    else if c = '\x7b' then s.readFlowStart .braceStart
    else if c = ']' then s.readFlowEnd .bracketEnd
    else if c = '\x7d' then s.readFlowEnd .braceEnd
    else if c = ',' then s.readComma
    else if c = '-' && atGap cs then s.readDash
    else if c = '?' && (s.inFlow || atGap cs) then s.readKey
    else if c = ':' && (s.inFlow || atGap cs) then s.readValue
    else if c = '*' then s.readAnchor .alias
    else if c = '&' then s.readAnchor .anchor
    else if c = '!' then s.readTag
    else if c = '|' && !s.inFlow then s.readBlock .literal
    else if c = '>' && !s.inFlow then s.readBlock .folded
    else if c = '\'' then s.readQuoted true
    else if c = '"' then s.readQuoted false
    else if startsPlain s.inFlow c cs then s.readPlain
    else throw .noToken

/-- The tokens that are known when the text goes wrong. -/
def knownTokens (s : Scanner) : List (Placed Token) :=
  let places := (s.place :: s.outerPlaces).filterMap id
  s.tokens.reverse.take (places.foldl (fun n k => min n k.before) s.tokens.length)

/-- Reads the next token in front of characters that are not there because of the fault `behind`,
if there is one: it is the fault of every token that cannot be told without them. -/
def readTokenBefore (behind : Option Fault) (s : Scanner) : Except Fault Scanner :=
  let next := s.readToken.bind dropStale
  match behind, next with
  | none, _ => next
  | some f, .ok t =>
    if s.toNextToken.cursor.rest.isEmpty || t.cursor.rest.isEmpty then .error f else next
  | some f, .error e =>
    if s.toNextToken.cursor.rest.isEmpty || e = .unclosedQuotes then .error f else next

/-- Reads the tokens of a text in at most `fuel` steps, and tells what is wrong with it, if
anything is. -/
def run (behind : Option Fault) : Nat → Scanner → List (Placed Token) × Option (Placed Fault)
  | 0, s => (s.knownTokens, none)
  | fuel + 1, s =>
    match s.readTokenBefore behind with
    | .error f => (s.knownTokens, some ⟨f, s.toNextToken.cursor.toPlace⟩)
    | .ok next =>
      if next.tokens.head?.any (·.value = .streamEnd) then (next.tokens.reverse, none)
      else run behind fuel next

end Scanner

/-- The tokens of a text up to its end or to where it goes wrong, and what is wrong with it. -/
def tokens (text : String) : List (Placed Token) × Option (Placed Fault) :=
  let (taken, bad) := takeBlocks [] 0 0 text.toList
  let cs := unifyBreaks taken
  Scanner.run (bad.map .controlCharacter) (cs.length + 1) { cursor := { rest := cs } }

end Yaml
end CourtDocket
