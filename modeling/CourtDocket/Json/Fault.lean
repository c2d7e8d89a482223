/-
# What can be wrong with a JSON text

The causes for which a text is no JSON, and their wording.
-/

namespace CourtDocket
namespace Json

/-- Why a text is no JSON. -/
inductive SyntaxFault where
  /-- The text ends inside a list. -/
  | cutList
  /-- The text ends inside an object. -/
  | cutObject
  /-- The text ends inside a string. -/
  | cutString
  /-- The text ends where a value should stand. -/
  | cutValue
  /-- No colon follows the name of a member. -/
  | expectedColon
  /-- Neither a comma nor the end of the list follows an item. -/
  | expectedListComma
  /-- Neither a comma nor the end of the object follows a member. -/
  | expectedObjectComma
  /-- A word other than `null`, `true` and `false`. -/
  | expectedWord
  /-- No value stands where one should. -/
  | expectedValue
  /-- An escape that strings do not have. -/
  | invalidEscape
  /-- A number that is not written as JSON writes numbers. -/
  | invalidNumber
  /-- A number beyond the range of binary64. -/
  | numberOutOfRange
  /-- Bytes that are no character. -/
  | invalidCharacter
  /-- A control character inside a string. -/
  | controlCharacter
  /-- A member that does not start with a string. -/
  | keyMustBeString
  /-- Half of a pair of units without the other half. -/
  | loneSurrogate
  /-- A comma with nothing after it. -/
  | trailingComma
  /-- Something after the value. -/
  | trailingCharacters
  /-- The first half of a pair of units, with no second one. -/
  | unpairedEscape
  deriving DecidableEq, Repr

/-- The wording of a fault. -/
def SyntaxFault.message : SyntaxFault → String
  | cutList => "EOF while parsing a list"
  | cutObject => "EOF while parsing an object"
  | cutString => "EOF while parsing a string"
  | cutValue => "EOF while parsing a value"
  | expectedColon => "expected `:`"
  | expectedListComma => "expected `,` or `]`"
  | expectedObjectComma => "expected `,` or `\x7d`"
  | expectedWord => "expected ident"
  | expectedValue => "expected value"
  | invalidEscape => "invalid escape"
  | invalidNumber => "invalid number"
  | numberOutOfRange => "number out of range"
  | invalidCharacter => "invalid unicode code point"
  | controlCharacter => "control character (\\u0000-\\u001F) found while parsing a string"
  | keyMustBeString => "key must be a string"
  | loneSurrogate => "lone leading surrogate in hex escape"
  | trailingComma => "trailing comma"
  | trailingCharacters => "trailing characters"
  | unpairedEscape => "unexpected end of hex escape"

end Json
end CourtDocket
