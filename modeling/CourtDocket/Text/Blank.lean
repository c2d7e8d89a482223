/-
# White space and trimming

Which texts count as none: `is_blank` of `AgentId` in `docket-core`, and the trimming of queries and
tags, §10.6 (4) and (10) of the specification.

A character is blank when Unicode gives it the property `White_Space`.  A text is blank when
all its characters are; `trim` drops the blank characters of both ends.  The zero-width space
`U+200B` and the byte order mark `U+FEFF` are not blank.
-/

namespace CourtDocket
namespace Text

/-- The ranges of the property `White_Space`. -/
def blankRanges : List (Nat × Nat) :=
  [(0x09, 0x0D), (0x20, 0x20), (0x85, 0x85), (0xA0, 0xA0), (0x1680, 0x1680), (0x2000, 0x200A),
    (0x2028, 0x2029), (0x202F, 0x202F), (0x205F, 0x205F), (0x3000, 0x3000)]

/-- Whether a code point lies in one of the ranges of a property. -/
def inRanges (ranges : List (Nat × Nat)) (n : Nat) : Bool :=
  ranges.any fun r => r.1 ≤ n && n ≤ r.2

/-- Whether a character is white space. -/
def isBlankChar (c : Char) : Bool :=
  inRanges blankRanges c.toNat

/-- The characters from the first one on that is not white space. -/
def trimStart (cs : List Char) : List Char :=
  cs.dropWhile isBlankChar

/-- The characters up to the last one that is not white space. -/
def trimEnd (cs : List Char) : List Char :=
  (cs.reverse.dropWhile isBlankChar).reverse

/-- The characters between the white space of both ends. -/
def trimChars (cs : List Char) : List Char :=
  trimEnd (trimStart cs)

/-- A text without the white space of both ends. -/
def trim (s : String) : String :=
  String.ofList (trimChars s.toList)

/-- Whether a text holds nothing but white space. -/
def isBlank (s : String) : Bool :=
  s.toList.all isBlankChar

/-- A text that may be missing, a blank one taken as missing. -/
def nonBlank (s : Option String) : Option String :=
  s.filter fun s => !isBlank s

example : isBlankChar '\u200b' = false ∧ isBlankChar '\u3000' = true := by decide

end Text
end CourtDocket
