/-
# What can be wrong with a YAML text

The causes for which a text is no YAML, and their wording.  The place of a fault is that of the
token in which it is.  A fault is told without its place; one at the very start of the text is told
with what was being read there.
-/

import CourtDocket.Yaml.Character

namespace CourtDocket
namespace Yaml

/-- Why a text is no YAML. -/
inductive Fault where
  /-- A character that no text may hold, behind a number of octets. -/
  | controlCharacter (octets : Nat)
  /-- A key that is not followed by a colon on its line. -/
  | missingColon
  /-- A character that starts no token. -/
  | noToken
  /-- A dash where no list may start. -/
  | misplacedEntry
  /-- A question mark where no key may start. -/
  | misplacedKey
  /-- A colon where no value may start. -/
  | misplacedValue
  /-- A directive without a name. -/
  | noDirectiveName
  /-- A name of a directive with a wrong character. -/
  | badDirectiveName
  /-- A directive that is not known. -/
  | unknownDirective
  /-- A version without a number. -/
  | noVersion
  /-- A version with too many digits. -/
  | longVersion
  /-- A version without a point. -/
  | noVersionPoint
  /-- A line that goes on after its end. -/
  | unfinishedLine
  /-- A handle that does not start or end with an exclamation mark. -/
  | badHandle
  /-- No white space after a handle. -/
  | noSpaceAfterHandle
  /-- No white space after a tag. -/
  | noSpaceAfterTag
  /-- A tag without a name. -/
  | noTagName
  /-- A tag that is not closed. -/
  | unclosedTag
  /-- A percent sign without two hexadecimal digits. -/
  | noOctet
  /-- An octet that starts no character. -/
  | badLeadingOctet
  /-- An octet that continues no character. -/
  | badTrailingOctet
  /-- An anchor or an alias without a name, or with a wrong character after it. -/
  | badAnchor
  /-- An indentation of zero. -/
  | zeroIndentation
  /-- A tab in the indentation of a block. -/
  | tabInBlock
  /-- The mark of a document inside quotes. -/
  | documentInQuotes
  /-- Quotes that are not closed. -/
  | unclosedQuotes
  /-- An escape that quotes do not have. -/
  | unknownEscape
  /-- An escape whose digits are not hexadecimal. -/
  | badEscapeDigits
  /-- An escape for what is no character. -/
  | badEscapeCode
  /-- A colon that ends no key inside brackets. -/
  | colonInFlow
  /-- A tab in the indentation of a text that goes on. -/
  | tabInPlain
  /-- A second document without its mark. -/
  | noDocumentStart
  /-- No value where one should stand. -/
  | noContent
  /-- No dash where an item should start. -/
  | noDash
  /-- No key where a member should start. -/
  | noKey
  /-- No comma after an item. -/
  | noItemComma
  /-- No comma after a member. -/
  | noMemberComma
  /-- A handle that is not declared. -/
  | undefinedHandle
  /-- A version that is declared twice. -/
  | duplicateVersion
  /-- A version that is not known. -/
  | unknownVersion
  /-- A handle that is declared twice. -/
  | duplicateHandle
  /-- An alias without its anchor. -/
  | unknownAnchor
  deriving DecidableEq, Repr

/-- The wording of a fault. -/
def Fault.message : Fault → String
  | controlCharacter octets =>
    "control characters are not allowed" ++
      (if octets = 0 then "" else " at position " ++ toString octets)
  | missingColon => "could not find expected ':'"
  | noToken => "found character that cannot start any token"
  | misplacedEntry => "block sequence entries are not allowed in this context"
  | misplacedKey => "mapping keys are not allowed in this context"
  | misplacedValue => "mapping values are not allowed in this context"
  | noDirectiveName => "could not find expected directive name"
  | badDirectiveName => "found unexpected non-alphabetical character"
  | unknownDirective => "found unknown directive name"
  | noVersion => "did not find expected version number"
  | longVersion => "found extremely long version number"
  | noVersionPoint => "did not find expected digit or '.' character"
  | unfinishedLine => "did not find expected comment or line break"
  | badHandle => "did not find expected '!'"
  | noSpaceAfterHandle => "did not find expected whitespace"
  | noSpaceAfterTag => "did not find expected whitespace or line break"
  | noTagName => "did not find expected tag URI"
  | unclosedTag => "did not find the expected '>'"
  | noOctet => "did not find URI escaped octet"
  | badLeadingOctet => "found an incorrect leading UTF-8 octet"
  | badTrailingOctet => "found an incorrect trailing UTF-8 octet"
  | badAnchor => "did not find expected alphabetic or numeric character"
  | zeroIndentation => "found an indentation indicator equal to 0"
  | tabInBlock => "found a tab character where an indentation space is expected"
  | documentInQuotes => "found unexpected document indicator"
  | unclosedQuotes => "found unexpected end of stream"
  | unknownEscape => "found unknown escape character"
  | badEscapeDigits => "did not find expected hexadecimal number"
  | badEscapeCode => "found invalid Unicode character escape code"
  | colonInFlow => "found unexpected ':'"
  | tabInPlain => "found a tab character that violates indentation"
  | noDocumentStart => "did not find expected <document start>"
  | noContent => "did not find expected node content"
  | noDash => "did not find expected '-' indicator"
  | noKey => "did not find expected key"
  | noItemComma => "did not find expected ',' or ']'"
  | noMemberComma => "did not find expected ',' or '\x7d'"
  | undefinedHandle => "found undefined tag handle"
  | duplicateVersion => "found duplicate %YAML directive"
  | unknownVersion => "found incompatible YAML document"
  | duplicateHandle => "found duplicate %TAG directive"
  | unknownAnchor => "unknown anchor"

/-- What is being read where a token is wrong as a whole, for the faults of a token that can be the
first one. -/
def Fault.activity? : Fault → Option String
  | noToken => some "while scanning for the next token"
  | noContent => some "while parsing a block node"
  | noKey => some "while parsing a block mapping"
  | undefinedHandle => some "while parsing a node"
  | _ => none

/-- The wording of a fault at its place. -/
def Placed.message (f : Placed Fault) : String :=
  match f.value.activity? with
  | some activity =>
    if f.place.isStart then f.value.message ++ ", " ++ activity else f.value.message
  | none => f.value.message

end Yaml
end CourtDocket
