/-
# Closed vocabularies

`ParseControlError` of the component `controls` of `docket-view`, and the shape that the readers of
its choices share.

A setting with a fixed set of values has a word for each of them.  `Vocabulary.find` reads a word
and refuses any other, upper-case spellings included; the error names the setting and quotes the
word.

A document has words of its own for the values: their names (`namedWords`).  That both are the same
words is a theorem about either setting, and no part of this definition.
-/

import CourtDocket.Text.Quoted

namespace CourtDocket

/-- The words for the values of a setting. -/
structure Vocabulary (α : Type) where
  /-- What the words choose. -/
  subject : String
  /-- The words and what they stand for. -/
  words : List (String × α)

/-- A word that a setting does not have. -/
structure UnknownWord where
  /-- What the word should choose. -/
  subject : String
  /-- The word. -/
  word : String
  deriving DecidableEq, Repr

/-- The wording of the error. -/
def UnknownWord.message (e : UnknownWord) : String :=
  "unknown " ++ e.subject ++ " " ++ Text.quoted e.word

/-- The words of a document for values that have a name. -/
def namedWords {α : Type} (name : α → String) (values : List α) : List (String × α) :=
  values.map fun a => (name a, a)

namespace Vocabulary

/-- The value that a word stands for. -/
def find {α : Type} (v : Vocabulary α) (word : String) : Except UnknownWord α :=
  match v.words.lookup word with
  | some a => pure a
  | none => throw ⟨v.subject, word⟩

end Vocabulary
end CourtDocket
