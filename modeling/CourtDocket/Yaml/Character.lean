/-
# Characters and places of a YAML text

Which characters a text may hold, what breaks a line, and where in the text one is.  A carriage
return, a next-line character and the two together with a line feed are line feeds; the line and
the paragraph separator break lines too, but stay what they are.

A text is taken in blocks of octets.  A block with a character that no text may hold is not taken,
and neither is what follows it.
-/

namespace CourtDocket
namespace Yaml

/-- Whether a text may hold a character. -/
def isAllowed (c : Char) : Bool :=
  let n := c.toNat
  c = '\t' || c = '\n' || c = '\r' || (0x20 ≤ n && n ≤ 0x7E) || n = 0x85 ||
    (0xA0 ≤ n && n ≤ 0xFFFD) || 0x10000 ≤ n

/-- The number of octets that a block has at most; no character is split. -/
def blockOctets : Nat := 16384

/-- The characters of the blocks that are taken of a text, and the number of octets before the
first character that no text may hold, if there is one.  The characters `block`, last one first,
make up `size` octets of a block, and `octets` octets stand before the rest of the text. -/
def takeBlocks (block : List Char) (size octets : Nat) : List Char → List Char × Option Nat
  | [] => (block.reverse, none)
  | c :: cs =>
    let isFull := blockOctets < size + c.utf8Size
    if !isAllowed c then (if isFull then block.reverse else [], some octets)
    else if isFull then
      let (taken, bad) := takeBlocks [c] c.utf8Size (octets + c.utf8Size) cs
      (block.reverse ++ taken, bad)
    else takeBlocks (c :: block) (size + c.utf8Size) (octets + c.utf8Size) cs

/-- The text with one kind of line feed. -/
def unifyBreaks : List Char → List Char
  | [] => []
  | '\r' :: '\n' :: cs => '\n' :: unifyBreaks cs
  | '\r' :: cs => '\n' :: unifyBreaks cs
  | c :: cs => (if c = '\u0085' then '\n' else c) :: unifyBreaks cs

/-- Whether a character breaks a line. -/
def isBreak (c : Char) : Bool :=
  c = '\n' || c = '\u2028' || c = '\u2029'

/-- Whether a character is a blank. -/
def isBlank (c : Char) : Bool :=
  c = ' ' || c = '\t'

/-- Whether a text goes on with a blank or a line break, or not at all. -/
def atGap : List Char → Bool
  | [] => true
  | c :: _ => isBlank c || isBreak c

/-- Whether a text goes on with a line break, or not at all. -/
def atLineEnd : List Char → Bool
  | [] => true
  | c :: _ => isBreak c

/-- Whether a character may stand in a name. -/
def isWordChar (c : Char) : Bool :=
  c.isAlphanum || c = '_' || c = '-'

/-- Whether the mark of a document stands at the start of a line. -/
def atDocumentMark : List Char → Bool
  | a :: b :: c :: cs =>
    ((a = '-' && b = '-' && c = '-') || (a = '.' && b = '.' && c = '.')) && atGap cs
  | _ => false

/-- A place in a text. -/
structure Place where
  /-- The number of lines before it. -/
  line : Nat := 0
  /-- The number of characters before it on its line. -/
  column : Nat := 0
  /-- The number of octets before it on its line. -/
  octets : Nat := 0
  deriving DecidableEq, Repr

namespace Place

/-- The place behind a character that breaks no line. -/
def past (p : Place) (c : Char) : Place :=
  { p with column := p.column + 1, octets := p.octets + c.utf8Size }

/-- The place behind characters that break no line. -/
def pastAll (p : Place) (cs : List Char) : Place :=
  cs.foldl past p

/-- The start of the next line. -/
def nextLine (p : Place) : Place :=
  ⟨p.line + 1, 0, 0⟩

/-- Whether it is the start of the text. -/
def isStart (p : Place) : Bool :=
  p.line = 0 && p.column = 0

end Place

/-- Something that stands in a text, and where it starts. -/
structure Placed (α : Type) where
  /-- What it is. -/
  value : α
  /-- Where it starts. -/
  place : Place
  deriving DecidableEq, Repr

/-- A place and the text from there on. -/
structure Cursor extends Place where
  /-- The text from the place on. -/
  rest : List Char
  deriving DecidableEq, Repr

namespace Cursor

/-- The place `n` characters further on the same line. -/
def skip (c : Cursor) (n : Nat) : Cursor :=
  ⟨c.pastAll (c.rest.take n), c.rest.drop n⟩

/-- The characters of a kind that stand at a place; no line break is of the kind. -/
def run (c : Cursor) (p : Char → Bool) : List Char :=
  c.rest.takeWhile p

/-- The place behind the characters of a kind. -/
def skipRun (c : Cursor) (p : Char → Bool) : Cursor :=
  ⟨c.pastAll (c.run p), c.rest.dropWhile p⟩

/-- The start of the next line, if a line ends here. -/
def skipBreak (c : Cursor) : Cursor :=
  match c.rest with
  | b :: cs => if isBreak b then ⟨c.nextLine, cs⟩ else c
  | [] => c

/-- The place behind the blanks and the comment that stand before the end of a line. -/
def skipToLineEnd (c : Cursor) : Cursor :=
  let c := c.skipRun isBlank
  if c.rest.head? = some '#' then c.skipRun fun x => !isBreak x else c

end Cursor
end Yaml
end CourtDocket
