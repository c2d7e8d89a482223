/-
# Reading records

How the records of `docket-core` and the settings of the panels are read, with `null_as_default` as
`RecordField.lenient`; §10.6 (10) of the specification.

A record has named fields.  In a text it is an object with a member for each field, or a list of
the fields' values in order.

* Members that name no field are skipped.
* A field may have one value only; this is found out before the second value is looked at.
* A field without a value takes the value for absent fields, if it has one.  That one is missing
  is found out after all members have been read.

The faults of a text are reported in the order in which they stand in it.  So a record is read
twice: `Record.checkMembers` goes through the members in their order and finds every fault, and
`Record.build` then looks each field up by its name, where the order does not matter any more.
-/

import CourtDocket.Json.Reader

namespace CourtDocket
namespace Json

/-- The value of the first member of a given name. -/
def Members.find? (name : String) : Members → Option Node
  | .member key v rest =>
    match key.text with
    | .ok k => if k = name then some v else rest.find? name
    | .error _ => rest.find? name
  | _ => none

/-- The value at the place that a name has among others. -/
def Items.find? (name : String) : List String → Items → Option Node
  | n :: names, .item v rest => if n = name then some v else rest.find? name names
  | _, _ => none

/-- A field of a record. -/
structure RecordField (α : Type) where
  /-- Its name. -/
  name : String
  /-- How its value is read. -/
  read : Reader α
  /-- The value that it has when the text gives none; without one, the field is required. -/
  absent : Option α

namespace RecordField

/-- A field that must have a value. -/
def required {α : Type} (name : String) (read : Reader α) : RecordField α :=
  ⟨name, read, none⟩

/-- A field that takes `fallback` when the text does not mention it. -/
def defaulted {α : Type} (name : String) (fallback : α) (read : Reader α) : RecordField α :=
  ⟨name, read, some fallback⟩

/-- A field that takes `fallback` when the text does not mention it or says `null`. -/
def lenient {α : Type} (name : String) (fallback : α) (read : Reader α) : RecordField α :=
  ⟨name, Reader.orElse fallback read, some fallback⟩

/-- A field whose value may be missing or `null`. -/
def optional {α : Type} (name : String) (read : Reader α) : RecordField (Option α) :=
  ⟨name, Reader.optional read, some none⟩

/-- The value of a field, given the nodes of a record by their names. -/
def take {α : Type} (f : RecordField α) (node? : String → Option Node) : Except ReadFault α :=
  match node? f.name with
  | some v => f.read v
  | none =>
    match f.absent with
    | some a => pure a
    | none => throw (.missing f.name)

end RecordField

/-- A field without the type of its values. -/
structure Slot where
  /-- The name of the field. -/
  name : String
  /-- Reads a value of the field and forgets it. -/
  check : Node → Except ReadFault Unit
  /-- Whether the field must have a value. -/
  required : Bool

/-- The field without the type of its values. -/
def RecordField.slot {α : Type} (f : RecordField α) : Slot :=
  { name := f.name
    check := fun v => (f.read v).map fun _ => ()
    required := f.absent.isNone }

/-- How a record is read. -/
structure Record (α : Type) where
  /-- The name of the record in messages. -/
  name : String
  /-- The fields in order. -/
  slots : List Slot
  /-- Makes the record from the nodes of its fields. -/
  build : (String → Option Node) → Except ReadFault α

namespace Record

variable {α : Type}

/-- Checks the members of an object, the fields `seen` having their values. -/
def checkMembers (slots : List Slot) (seen : List String) : Members → Except ReadFault Unit
  | .close => pure ()
  | .stop s => throw (.malformed s.read)
  | .noKey _ => throw (.malformed .keyMustBeString)
  | .member key v rest => do
    let k ← orMalformed key.text
    match slots.find? (·.name = k) with
    | none => do
      orMalformed v.skip
      checkMembers slots seen rest
    | some slot => do
      if k ∈ seen then throw (.duplicate k)
      slot.check v
      checkMembers slots (k :: seen) rest

/-- Refuses a record that ends after `length` values, when one of the other fields is required. -/
def checkRest (expected : String) (length : Nat) : List Slot → Except ReadFault Unit
  | [] => pure ()
  | slot :: slots =>
    if slot.required then throw (.wrongLength length expected)
    else checkRest expected (length + 1) slots

/-- Checks the items of a list, `length` of them having been checked. -/
def checkItems (expected : String) (length : Nat) : List Slot → Items → Except ReadFault Unit
  | slots, .close => checkRest expected length slots
  | [], .stop s => throw (.malformed s.finish)
  | [], .item _ _ => throw (.malformed .trailingCharacters)
  | _ :: _, .stop s => throw (.malformed s.read)
  | slot :: slots, .item v rest => do
    slot.check v
    checkItems expected (length + 1) slots rest

/-- What a message calls the record. -/
def title (r : Record α) : String :=
  "struct " ++ r.name

/-- Reads the record. -/
def read (r : Record α) : Reader α
  | .object ms => do
    checkMembers r.slots [] ms
    r.build fun name => ms.find? name
  | .array vs => do
    checkItems (r.title ++ " with " ++ toString r.slots.length ++ " elements") 0 r.slots vs
    r.build fun name => vs.find? name (r.slots.map (·.name))
  | v => Reader.refuse r.title v

end Record
end Json
end CourtDocket
