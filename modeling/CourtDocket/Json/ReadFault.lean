/-
# Why a JSON text is not the value asked for

The faults with which `from_json_str` of `DocketSnapshot` refuses a document.

Either the text goes wrong as JSON (`malformed`), or it is JSON of another shape than the one
asked for.  `ReadFault.message` is the wording of both.  The place of a fault is not represented:
the line and the column that are told behind the wording (` at line 1 column 5`) are no part of it.
-/

import CourtDocket.Json.Fault
import CourtDocket.Number.FloatText
import CourtDocket.Text.Quoted

namespace CourtDocket
namespace Json

/-- What stands where a value of another kind was asked for. -/
inductive Found where
  /-- The word `null`. -/
  | null
  /-- One of the words `true` and `false`. -/
  | bool (b : Bool)
  /-- An integer. -/
  | int (i : Int)
  /-- A number that is no integer. -/
  | float (x : Binary64)
  /-- A string. -/
  | string (s : String)
  /-- A list. -/
  | array
  /-- An object. -/
  | object

/-- The name of what was found. -/
def Found.text : Found → String
  | null => "null"
  | bool b => "boolean `" ++ (if b then "true" else "false") ++ "`"
  | int i => "integer `" ++ toString i ++ "`"
  | float x => "floating point `" ++ FloatLayout.json.write x ++ "`"
  | string s => "string " ++ Text.quoted s
  | array => "sequence"
  | object => "map"

/-- Why a text is not the value asked for. -/
inductive ReadFault where
  /-- The text goes wrong as JSON. -/
  | malformed (fault : SyntaxFault)
  /-- A value of another kind was found. -/
  | wrongType (found : Found) (expected : String)
  /-- A value of the right kind is outside the range. -/
  | wrongValue (found : Found) (expected : String)
  /-- A field has no value. -/
  | missing (field : String)
  /-- A field has two values. -/
  | duplicate (field : String)
  /-- A name is none of the choices. -/
  | unknownName (name : String) (choices : List String)
  /-- A list is too short. -/
  | wrongLength (length : Nat) (expected : String)
  /-- A string does not write what it should. -/
  | custom (reason : String)

namespace ReadFault

/-- The choices of a name, as they are listed in a message. -/
def choicesText : List String → String
  | [a, b] => "expected `" ++ a ++ "` or `" ++ b ++ "`"
  | names => "expected one of " ++ ", ".intercalate (names.map fun n => "`" ++ n ++ "`")

/-- The wording of a fault. -/
def message : ReadFault → String
  | malformed fault => fault.message
  | wrongType found expected => "invalid type: " ++ found.text ++ ", expected " ++ expected
  | wrongValue found expected => "invalid value: " ++ found.text ++ ", expected " ++ expected
  | missing field => "missing field `" ++ field ++ "`"
  | duplicate field => "duplicate field `" ++ field ++ "`"
  | unknownName name choices => "unknown variant `" ++ name ++ "`, " ++ choicesText choices
  | wrongLength n expected => "invalid length " ++ toString n ++ ", expected " ++ expected
  | custom reason => reason

/-- The wording of a fault, told as one of the document, up to its place in the text. -/
def report (f : ReadFault) : String :=
  "serialization error: " ++ f.message

end ReadFault
end Json
end CourtDocket
