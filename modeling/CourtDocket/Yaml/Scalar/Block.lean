/-
# Block scalars

A block scalar is the lines below a bar or a greater-than sign, as long as they are indented.  Its
header may give the indentation, which is otherwise that of the first line, and what is done with
the line breaks at its end: one is kept (`clip`), none (`strip`) or all (`keep`).  Below a bar the
lines are kept; below a greater-than sign a line break between two lines that do not start with a
blank is a space.
-/

import CourtDocket.Yaml.Scalar.Plain

namespace CourtDocket
namespace Yaml

/-- What is done with the line breaks at the end of a block. -/
inductive Chomping where
  /-- None is kept. -/
  | strip
  /-- One is kept. -/
  | clip
  /-- All are kept. -/
  | keep
  deriving DecidableEq, Repr

/-- The lines of a block, as far as they have been read. -/
structure Block where
  /-- The indentation, if it is known. -/
  indent : Option Nat
  /-- The longest indentation of the blank lines at the start. -/
  widest : Nat := 0
  /-- The text. -/
  text : List Char := []
  /-- The line break after the last line. -/
  lastBreak : List Char := []
  /-- The line breaks of the blank lines after it. -/
  blankBreaks : List Char := []
  /-- Whether the last line starts with a blank. -/
  startsBlank : Bool := false
  deriving Repr

namespace Block

/-- Whether a column is still in the indentation. -/
def isInside (b : Block) (column : Nat) : Bool :=
  match b.indent with
  | none => true
  | some n => column < n

/-- The indentation that the first line at `column` gives to a block inside `parent` columns. -/
def settle (b : Block) (parent column : Nat) : Nat :=
  b.indent.getD (max (max b.widest column) (max parent 1))

/-- The block with the start of a line, whose first character is `c`. -/
def startLine (b : Block) (folded : Bool) (c : Char) : Block :=
  let joins := folded && b.lastBreak = ['\n'] && !b.startsBlank && !isBlank c
  let between :=
    if joins then (if b.blankBreaks.isEmpty then [' '] else b.blankBreaks)
    else b.lastBreak ++ b.blankBreaks
  { b with text := b.text ++ between, lastBreak := [], blankBreaks := [], startsBlank := isBlank c }

/-- The text of a block that is complete. -/
def finish (b : Block) : Chomping → List Char
  | .strip => b.text
  | .clip => b.text ++ b.lastBreak
  | .keep => b.text ++ b.lastBreak ++ b.blankBreaks

/-- Goes on with a block inside `parent` columns, within a line if `inLine`. -/
def readFrom (folded : Bool) (chomping : Chomping) (parent : Nat) (b : Block) (inLine : Bool) :
    List Char → Place → Except Fault Lexeme
  | [], p => .ok ⟨b.finish chomping, ⟨p, []⟩, false⟩
  | c :: cs, p =>
    if inLine then
      if isBreak c then
        readFrom folded chomping parent { b with lastBreak := [c] } false cs p.nextLine
      else readFrom folded chomping parent { b with text := b.text ++ [c] } true cs (p.past c)
    else if c = ' ' && b.isInside p.column then
      readFrom folded chomping parent { b with widest := max b.widest (p.column + 1) } false cs
        (p.past c)
    else if c = '\t' && b.isInside p.column then .error .tabInBlock
    else if isBreak c then
      readFrom folded chomping parent { b with blankBreaks := b.blankBreaks ++ [c] } false cs
        p.nextLine
    else
      let indent := b.settle parent p.column
      if p.column = indent then
        let b := { b with indent := some indent }.startLine folded c
        readFrom folded chomping parent { b with text := b.text ++ [c] } true cs (p.past c)
      else .ok ⟨b.finish chomping, ⟨p, c :: cs⟩, false⟩

end Block

/-- What a character says about the line breaks at the end of a block. -/
def chomping? : Char → Option Chomping
  | '+' => some .keep
  | '-' => some .strip
  | _ => none

/-- The header of a block: the chomping, the width of the indentation and the place behind. -/
def blockHeader (c : Cursor) : Except Fault (Chomping × Option Nat × Cursor) :=
  let first := c.rest.head?
  let second := (c.rest.drop 1).head?
  let zero : Except Fault (Chomping × Option Nat × Cursor) := .error .zeroIndentation
  match first.bind chomping?, first.bind Number.digit? with
  | some chomping, _ =>
    match second.bind Number.digit? with
    | some 0 => zero
    | some n => .ok (chomping, some n, c.skip 2)
    | none => .ok (chomping, none, c.skip 1)
  | none, some 0 => zero
  | none, some n =>
    match second.bind chomping? with
    | some chomping => .ok (chomping, some n, c.skip 2)
    | none => .ok (.clip, some n, c.skip 1)
  | none, none => .ok (.clip, none, c)

/-- The block scalar that starts at a place, inside a block that is indented by `indent`, which is
below zero outside of all blocks. -/
def blockScalar (folded : Bool) (indent : Int) (c : Cursor) : Except Fault Lexeme := do
  let (chomping, width, c) ← blockHeader (c.skip 1)
  let c := c.skipToLineEnd
  if !atLineEnd c.rest then throw .unfinishedLine
  let c := c.skipBreak
  let block : Block := { indent := width.map (· + indent.toNat) }
  block.readFrom folded chomping (indent + 1).toNat false c.rest c.toPlace

end Yaml
end CourtDocket
