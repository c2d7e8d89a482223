/-
# Lower-casing

What `matches_query` and `matches_tag` of the component `filter` of `docket-view` compare texts in,
§4.5 of the specification.

The full lower-case mapping of Unicode, which is not quite a map on characters:

* `İ` becomes the two characters `i` and `U+0307`;
* a capital sigma becomes `ς` at the end of a word and `σ` elsewhere.  It ends a word when, case
  ignorable characters skipped, a cased character stands before it and none stands after it.

Every other character has one lower case of its own, found in `lowercaseRuns`.
-/

import CourtDocket.Text.Blank
import CourtDocket.Text.CaseTable

namespace CourtDocket
namespace Text

/-- Whether a character has letter case. -/
def isCased (c : Char) : Bool :=
  inRanges casedRanges c.toNat

/-- Whether a character is skipped when the neighbours of a sigma are looked at. -/
def isCaseIgnorable (c : Char) : Bool :=
  inRanges caseIgnorableRanges c.toNat

/-- The lower case of a character taken on its own. -/
def lowercaseChar (c : Char) : List Char :=
  if c = 'İ' then ['i', '\u0307']
  else
    match lowercaseRuns.find? fun r => r.covers c.toNat with
    | some r => [Char.ofNat (c.toNat + r.shift).toNat]
    | none => [c]

/-- Whether the first character that is not case ignorable has letter case. -/
def startsCased (cs : List Char) : Bool :=
  match cs.dropWhile isCaseIgnorable with
  | [] => false
  | c :: _ => isCased c

/-- The lower case of the characters `cs`, which follow the characters `before` (last one
first). -/
def lowercaseFrom (before : List Char) : List Char → List Char
  | [] => []
  | c :: cs =>
    (if c = 'Σ' then
      [if startsCased before && !startsCased cs then 'ς' else 'σ']
    else lowercaseChar c) ++ lowercaseFrom (c :: before) cs

/-- The lower case of a text as a list of characters. -/
def lowercaseChars (cs : List Char) : List Char :=
  lowercaseFrom [] cs

end Text
end CourtDocket
