/-
# Reading values off a tree

A `Reader` takes a value of one kind off a `Node`.  When the node holds another kind, the reader
tells what it found: a scalar is read to its end first, a list or an object is not looked into.
A node that is no value at all is the fault of the text.
-/

import CourtDocket.Json.Node
import CourtDocket.Json.ReadFault
import CourtDocket.Saturating

namespace CourtDocket
namespace Json

/-- How values of one kind are read. -/
abbrev Reader (α : Type) :=
  Node → Except ReadFault α

/-- The answer of a function on texts, its fault taken as one of reading. -/
def orMalformed {α : Type} (e : Except SyntaxFault α) : Except ReadFault α :=
  e.mapError .malformed

/-- What stands at a node. -/
def Node.found : Node → Except ReadFault Found
  | .null => .ok .null
  | .bool b => .ok (.bool b)
  | .number n => orMalformed <| n.value.map fun v =>
    match v with
    | .int i => .int i
    | .float x => .float x
  | .string t => orMalformed (t.text.map .string)
  | .array _ => .ok .array
  | .object _ => .ok .object
  | .broken f => .error (.malformed f.read)

namespace Reader

/-- Refuses a node as being of another kind than `expected`. -/
def refuse {α : Type} (expected : String) : Reader α := fun v => do
  throw (.wrongType (← v.found) expected)

/-- Reads an integer of 64 bits. -/
def int64 : Reader Int64
  | .number n => do
    match ← orMalformed n.value with
    | .int i =>
      match int64? i with
      | some c => pure c
      | none => throw (.wrongValue (.int i) "i64")
    | .float x => throw (.wrongType (.float x) "i64")
  | v => refuse "i64" v

/-- Reads a string; `expected` is what it stands for. -/
def text (expected : String) : Reader String
  | .string t => orMalformed t.text
  | v => refuse expected v

/-- Reads a string. -/
def string : Reader String :=
  text "a string"

/-- Reads the items of a list from one of them on. -/
def items {α : Type} (read : Reader α) : Items → Except ReadFault (List α)
  | .close => pure []
  | .stop s => throw (.malformed s.read)
  | .item v rest => do
    let a ← read v
    let as ← items read rest
    pure (a :: as)

/-- Reads a list. -/
def list {α : Type} (read : Reader α) : Reader (List α)
  | .array vs => items read vs
  | v => refuse "a sequence" v

/-- Reads the members of an object from one of them on, the names being free. -/
def members {α : Type} (read : Reader α) : Members → Except ReadFault (List (String × α))
  | .close => pure []
  | .stop s => throw (.malformed s.read)
  | .noKey _ => throw (.malformed .keyMustBeString)
  | .member key v rest => do
    let k ← orMalformed key.text
    let a ← read v
    let ms ← members read rest
    pure ((k, a) :: ms)

/-- Reads an object whose names are free. -/
def map {α : Type} (read : Reader α) : Reader (List (String × α))
  | .object ms => members read ms
  | v => refuse "a map" v

/-- Reads a value or `null`. -/
def optional {α : Type} (read : Reader α) : Reader (Option α)
  | .null => pure none
  | v => (read v).map some

/-- Reads a value, or `null` for `fallback`. -/
def orElse {α : Type} (fallback : α) (read : Reader α) : Reader α := fun v => do
  pure ((← optional read v).getD fallback)

/-- The choice of a given name. -/
def choose {α : Type} (choices : List (String × α)) (name : String) : Except ReadFault α :=
  match choices.lookup name with
  | some a => pure a
  | none => throw (.unknownName name (choices.map (·.1)))

/-- Reads one of several named values: its name, or an object whose only member has that name and
the value `null`. -/
def choice {α : Type} (choices : List (String × α)) : Reader α
  | .string t => do
    choose choices (← orMalformed t.text)
  | .object (.member key v rest) => do
    let a ← choose choices (← orMalformed key.text)
    match v with
    | .null => pure ()
    | v => refuse "unit" v
    match rest with
    | .close => pure a
    | .stop .cut => throw (.malformed .cutObject)
    | _ => throw (.malformed .expectedValue)
  | .object (.noKey _) => throw (.malformed .keyMustBeString)
  | .object (.stop _) => throw (.malformed .cutObject)
  | .broken f => throw (.malformed f.readWord)
  | _ => throw (.malformed .expectedValue)

/-- Reads a whole text that holds one value. -/
def document {α : Type} (read : Reader α) (text : List Symbol) : Except ReadFault α := do
  let (v, more) := Node.ofSymbols text
  let a ← read v
  if more then throw (.malformed .trailingCharacters)
  pure a

end Reader
end Json
end CourtDocket
