/-
# The settings as a YAML document

`from_yaml_str` and `to_yaml` of `ViewConfig`, component `config` of `docket-view`, §10.4 of the
specification.

The settings are a mapping from names to values; a name that is left out keeps its value from the
defaults, and one that no setting has is passed over.  An empty document is the defaults.

`Settings.parse` reports the first thing that is wrong in the order of the document, a wrong value
before a fault of the text behind it.  The line and the column that are told behind the wording of a
fault are not represented.  `Settings.toYaml` writes all names, a line for each.
-/

import CourtDocket.Settings.Basic
import CourtDocket.Yaml.Value

namespace CourtDocket

/-- Why a document gives no settings. -/
inductive SettingsFault where
  /-- The text is no YAML. -/
  | malformed (fault : Yaml.Placed Yaml.Fault)
  /-- Something of another kind was found, at a named place or on the whole. -/
  | wrongType (place : Option String) (found expected : String)
  /-- The text of a scalar does not suit its tag. -/
  | wrongValue (place : Option String) (found expected : String)
  /-- A name stands twice. -/
  | duplicate (name : String)
  /-- There is a second document. -/
  | manyDocuments
  deriving DecidableEq, Repr

namespace SettingsFault

/-- A wording with the place it is about. -/
def placed (place : Option String) (text : String) : String :=
  match place with
  | none => text
  | some p => p ++ ": " ++ text

/-- The wording of a fault. -/
def message : SettingsFault → String
  | malformed fault => fault.message
  | wrongType place found expected =>
    placed place ("invalid type: " ++ found ++ ", expected " ++ expected)
  | wrongValue place found expected =>
    placed place ("invalid value: " ++ found ++ ", expected " ++ expected)
  | duplicate name => "duplicate field `" ++ name ++ "`"
  | manyDocuments => "deserializing from YAML containing more than one document is not supported"

/-- The wording of a fault, told as one of the settings, up to its place in the text. -/
def report (f : SettingsFault) : String :=
  "invalid config: " ++ f.message

end SettingsFault

/-- The settings that the members of a document have given. -/
structure GivenSettings where
  /-- The longest time to a hearing. -/
  policyHorizon : Option Int64 := none
  /-- The shortest time to a hearing. -/
  policyFloor : Option Int64 := none
  /-- How long a seat stays reserved. -/
  reservationWindow : Option (Option Int64) := none
  /-- The circumference of a ring. -/
  ringCircumference : Option Binary64 := none
  /-- The length of a hearing. -/
  hearingSession : Option Int64 := none
  deriving DecidableEq

/-- The settings, the defaults where none is given. -/
def GivenSettings.complete (g : GivenSettings) : Settings :=
  let d : Settings := {}
  { policyHorizon := g.policyHorizon.getD d.policyHorizon
    policyFloor := g.policyFloor.getD d.policyFloor
    reservationWindow := g.reservationWindow.getD d.reservationWindow
    ringCircumference := g.ringCircumference.getD d.ringCircumference
    hearingSession := g.hearingSession.getD d.hearingSession }

open Yaml

namespace SettingsReader

/-- What is wrong with a document where its events end too early. -/
def cutOff (d : Document) : SettingsFault :=
  .malformed (d.fault.getD ⟨.noContent, {}⟩)

/-- The event at the start of a value, an alias followed to its anchor. -/
def first (d : Document) (es : List Event) : Except SettingsFault Event :=
  let target :=
    match es with
    | .alias anchor :: _ => d.anchored anchor
    | es => es
  match target with
  | e :: _ => .ok e
  | [] => .error (cutOff d)

/-- Refuses what starts with an event. -/
def refuse {α : Type} (place : Option String) (expected : String) :
    Event → Except SettingsFault α
  | .scalar s =>
    match s.value with
    | .ok v => .error (.wrongType place v.text expected)
    | .error kind => .error (.wrongValue place (Value.string s.text).text kind)
  | .listStart => .error (.wrongType place "sequence" expected)
  | _ => .error (.wrongType place "map" expected)

/-- Whether a scalar may be read as a number: it is plain, or a block with the tag of the kind. -/
def mayBeNumber (kind : String) (s : Scalar) : Bool :=
  s.style = .plain || (s.style = .literal && s.tag = some (coreTag kind))

/-- Reads a 64-bit integer. -/
def int64 (place : Option String) : Event → Except SettingsFault Int64
  | .scalar s =>
    match if mayBeNumber "int" s then (readInteger? s.text).bind int64? else none with
    | some i => .ok i
    | none => refuse place "i64" (.scalar s)
  | e => refuse place "i64" e

/-- Reads a number. -/
def float (place : Option String) : Event → Except SettingsFault Binary64
  | .scalar s =>
    match if mayBeNumber "float" s then readFloat? s.text else none with
    | some x => .ok x
    | none => refuse place "f64" (.scalar s)
  | e => refuse place "f64" e

/-- Reads a 64-bit integer, or nothing.  A plain scalar without a tag is nothing when it is empty
or spells it; one with the tag of nothing has to spell it. -/
def optionalInt64 (place : Option String) : Event → Except SettingsFault (Option Int64)
  | .scalar s =>
    if s.style = .plain && s.tag = some (coreTag "null") then
      if spellsNull s.text then .ok none
      else .error (.wrongValue none (Value.string s.text).text "null")
    else if s.style = .plain && s.tag.isNone && (s.text.isEmpty || spellsNull s.text) then .ok none
    else (int64 place (.scalar s)).map some
  | e => (int64 place e).map some

/-- What follows a value, inside `depth` lists and mappings of which it is the rest. -/
def skipFrom : Nat → List Event → Option (List Event)
  | _, [] => none
  | depth, e :: es =>
    match e with
    | .listStart => skipFrom (depth + 1) es
    | .mappingStart => skipFrom (depth + 1) es
    | .listEnd => if depth ≤ 1 then some es else skipFrom (depth - 1) es
    | .mappingEnd => if depth ≤ 1 then some es else skipFrom (depth - 1) es
    | _ => if depth = 0 then some es else skipFrom depth es

/-- What follows a value. -/
def skipValue (d : Document) (es : List Event) : Except SettingsFault (List Event) :=
  match skipFrom 0 es with
  | some rest => .ok rest
  | none => .error (cutOff d)

/-- Reads a name. -/
def name (d : Document) (es : List Event) : Except SettingsFault String := do
  match ← first d es with
  | .scalar s => pure (String.ofList s.text)
  | e => refuse none "field identifier" e

/-- Refuses a name that has a value already. -/
def once {α : Type} (name : String) (old : Option α) : Except SettingsFault Unit :=
  if old.isSome then .error (.duplicate name) else .ok ()

/-- Reads the value of a name, the events `es` being the value and what follows it. -/
def member (d : Document) (place : Option String) (name : String) (g : GivenSettings)
    (es : List Event) : Except SettingsFault (GivenSettings × List Event) := do
  if name = "policy_horizon_ms" then
    once name g.policyHorizon
    pure ({ g with policyHorizon := some (← int64 place (← first d es)) }, es.drop 1)
  else if name = "policy_floor_ms" then
    once name g.policyFloor
    pure ({ g with policyFloor := some (← int64 place (← first d es)) }, es.drop 1)
  else if name = "reservation_window_ms" then
    once name g.reservationWindow
    pure ({ g with reservationWindow := some (← optionalInt64 place (← first d es)) }, es.drop 1)
  else if name = "ring_circumference" then
    once name g.ringCircumference
    pure ({ g with ringCircumference := some (← float place (← first d es)) }, es.drop 1)
  else if name = "hearing_session_ms" then
    once name g.hearingSession
    pure ({ g with hearingSession := some (← int64 place (← first d es)) }, es.drop 1)
  else pure (g, ← skipValue d es)

/-- Reads the members of the mapping in at most `fuel` steps. -/
def members (d : Document) : Nat → GivenSettings → List Event → Except SettingsFault GivenSettings
  | _, g, .mappingEnd :: _ => .ok g
  | 0, _, _ => .error (cutOff d)
  | fuel + 1, g, es => do
    let n ← name d es
    let place :=
      match es with
      | .scalar _ :: _ => n
      | _ => "?"
    let (g, rest) ← member d (some place) n g (es.drop 1)
    members d fuel g rest

/-- Reads the value of a document. -/
def root (d : Document) : Except SettingsFault GivenSettings :=
  match d.events with
  | [] =>
    match d.fault with
    | none => .ok {}
    | some fault => .error (.malformed fault)
  | .mappingStart :: es => members d es.length {} es
  | .scalar ⟨_, .plain, []⟩ :: _ => .ok {}
  | e :: _ => refuse none "struct ViewConfig" e

end SettingsReader

namespace Settings

/-- Reads the settings of a document. -/
def ofDocument (d : Document) : Except SettingsFault Settings := do
  let g ← SettingsReader.root d
  match d.fault with
  | some fault => throw (.malformed fault)
  | none => if d.hasMore then throw .manyDocuments else pure g.complete

/-- Reads the settings of a text. -/
def parse (text : String) : Except SettingsFault Settings :=
  if Text.isBlank text then .ok {} else ofDocument (.ofString text)

/-- A line of a document. -/
def yamlLine (name value : String) : String :=
  name ++ ": " ++ value ++ "\n"

/-- The document of the settings. -/
def toYaml (s : Settings) : String :=
  yamlLine "policy_horizon_ms" (toString s.policyHorizon.toInt) ++
    yamlLine "policy_floor_ms" (toString s.policyFloor.toInt) ++
    yamlLine "reservation_window_ms"
      (match s.reservationWindow with
      | none => "null"
      | some w => toString w.toInt) ++
    yamlLine "ring_circumference" (FloatLayout.yaml.write s.ringCircumference) ++
    yamlLine "hearing_session_ms" (toString s.hearingSession.toInt)

end Settings
end CourtDocket
