/-
# Tokens of a YAML text

The marks and the texts of which a document consists.  The tokens that start and end lists and
mappings made by indentation have no characters of their own.
-/

namespace CourtDocket
namespace Yaml

/-- How the text of a scalar is written. -/
inductive ScalarStyle where
  /-- Without marks. -/
  | plain
  /-- Between quotes. -/
  | quoted
  /-- As a block whose lines are kept. -/
  | literal
  /-- As a block whose lines are joined. -/
  | folded
  deriving DecidableEq, Repr

/-- A token. -/
inductive Token where
  /-- The declaration of a version. -/
  | version (major minor : Nat)
  /-- The declaration of a handle and what it stands for. -/
  | handle (name stem : List Char)
  /-- Three dashes. -/
  | documentStart
  /-- Three points. -/
  | documentEnd
  /-- The start of an indented list. -/
  | listStart
  /-- The start of an indented mapping. -/
  | mappingStart
  /-- The end of an indented list or mapping. -/
  | blockEnd
  /-- The start of a list in brackets. -/
  | bracketStart
  /-- The end of a list in brackets. -/
  | bracketEnd
  /-- The start of a mapping in braces. -/
  | braceStart
  /-- The end of a mapping in braces. -/
  | braceEnd
  /-- A dash before an item. -/
  | dash
  /-- A comma inside brackets or braces. -/
  | comma
  /-- The start of a key. -/
  | key
  /-- The start of a value. -/
  | value
  /-- The place of an anchored value. -/
  | alias (name : List Char)
  /-- A name for the value that follows. -/
  | anchor (name : List Char)
  /-- A tag for the value that follows. -/
  | tag (handle name : List Char)
  /-- A text. -/
  | scalar (style : ScalarStyle) (text : List Char)
  /-- The end of the text. -/
  | streamEnd
  deriving DecidableEq, Repr

end Yaml
end CourtDocket
