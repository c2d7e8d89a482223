/-
# The first document of a YAML text

The text of a configuration as `from_yaml_str` of `ViewConfig` is given it, §10.4 of the
specification.

A document is a sequence of events: scalars, and the starts and ends of lists and mappings.  An
alias stands for the event at which its anchor was put.  Where the text goes wrong the document is
cut off, and the events before that place are kept with the fault: whoever reads them may find
another one first.

Anchors are numbered by the names that were known before them.  When a name is used again, it
moves to the number that the next new name will get too, and takes its aliases along; the place of
a number is the last one that it was given.
-/

import CourtDocket.Yaml.TokenStream

namespace CourtDocket
namespace Yaml

/-- A text with what is known about it. -/
structure Scalar where
  /-- Its tag. -/
  tag : Option (List Char)
  /-- How it is written. -/
  style : ScalarStyle
  /-- The text. -/
  text : List Char
  deriving DecidableEq, Repr

/-- A part of a document. -/
inductive Event where
  /-- A value that is an anchored one. -/
  | alias (anchor : Nat)
  /-- A text. -/
  | scalar (s : Scalar)
  /-- The start of a list. -/
  | listStart
  /-- The end of a list. -/
  | listEnd
  /-- The start of a mapping. -/
  | mappingStart
  /-- The end of a mapping. -/
  | mappingEnd
  deriving DecidableEq, Repr

/-- A document that is being read. -/
structure Draft where
  /-- The tokens that are left. -/
  tokens : List (Placed Token)
  /-- What is wrong with the text behind them. -/
  fault : Option (Placed Fault)
  /-- The handles of tags and what they stand for. -/
  handles : List (List Char × List Char) := []
  /-- The events in reverse order. -/
  events : List Event := []
  /-- The numbers of the names of anchors. -/
  anchors : List (List Char × Nat) := []
  /-- The places of the numbers, the last one first. -/
  places : List (Nat × Nat) := []

/-- A step in reading a document; what was read stays when it fails. -/
abbrev Drafting (α : Type) :=
  ExceptT (Placed Fault) (StateM Draft) α

namespace Drafting

/-- The next token and its place. -/
def peekPlaced : Drafting (Placed Token) := do
  let d ← get
  match d.tokens with
  | t :: _ => pure t
  | [] => throw (d.fault.getD ⟨.noContent, {}⟩)

/-- The next token. -/
def peek : Drafting Token := do
  pure (← peekPlaced).value

/-- Stops because of what is wrong with the next token. -/
def fail {α : Type} (f : Fault) : Drafting α := do
  throw ⟨f, (← peekPlaced).place⟩

/-- Drops the next token. -/
def skip : Drafting Unit :=
  modify fun d => { d with tokens := d.tokens.drop 1 }

/-- Whether the next token is one of the given ones. -/
def nextIs (p : Token → Bool) : Drafting Bool := do
  pure (p (← peek))

/-- Adds an event. -/
def emit (e : Event) : Drafting Unit :=
  modify fun d => { d with events := e :: d.events }

/-- Puts an anchor at the next event. -/
def putAnchor : Option (List Char) → Drafting Unit
  | none => pure ()
  | some name =>
    modify fun d =>
      let number := d.anchors.length
      { d with
        anchors := (name, number) :: d.anchors.filter (·.1 ≠ name)
        places := (number, d.events.length) :: d.places }

/-- Adds the event of an alias that stands at a place. -/
def emitAlias (place : Place) (name : List Char) : Drafting Unit := do
  match (← get).anchors.lookup name with
  | some number => emit (.alias number)
  | none => throw ⟨.unknownAnchor, place⟩

/-- Adds the event of a value that is not there. -/
def emitEmpty : Drafting Unit :=
  emit (.scalar ⟨none, .plain, []⟩)

/-- The tag that a handle and a name at a place stand for. -/
def resolveTag (place : Place) (handle name : List Char) : Drafting (List Char) := do
  if handle.isEmpty then pure name
  else
    match (← get).handles.lookup handle with
    | some stem => pure (stem ++ name)
    | none => throw ⟨.undefinedHandle, place⟩

/-- Reads an anchor, if there is one. -/
def anchor : Drafting (Option (List Char)) := do
  match ← peek with
  | .anchor name => do
    skip
    pure (some name)
  | _ => pure none

/-- Reads a tag, if there is one. -/
def tag : Drafting (Option (Placed (List Char × List Char))) := do
  match ← peekPlaced with
  | ⟨.tag handle name, place⟩ => do
    skip
    pure (some ⟨(handle, name), place⟩)
  | _ => pure none

/-- Reads an anchor and a tag in any order. -/
def properties : Drafting (Option (List Char) × Option (List Char)) := do
  let a ← anchor
  let t ← tag
  let a ← if a.isNone && t.isSome then anchor else pure a
  match t with
  | none => pure (a, none)
  | some ⟨(handle, name), place⟩ => do
    let _ ← peek
    let full ← resolveTag place handle name
    pure (a, some full)

/-- The tokens before which an item of an indented list or a part of an indented mapping is
empty. -/
def endsPart (t : Token) : Bool :=
  t = .dash || t = .blockEnd || t = .key || t = .value

mutual

/-- Reads a value in at most `fuel` steps; an indented one if `block`, a list without indentation
of its own if `flat`. -/
def node : Nat → Bool → Bool → Drafting Unit
  | 0, _, _ => fail .noContent
  | fuel + 1, block, flat => do
    match ← peekPlaced with
    | ⟨.alias name, place⟩ => do
      skip
      emitAlias place name
    | _ => do
      let (a, t) ← properties
      match ← peek with
      | .scalar style text => do
        skip
        putAnchor a
        emit (.scalar ⟨t, style, text⟩)
      | .bracketStart => do
        putAnchor a
        emit .listStart
        skip
        bracketItems fuel true
      | .braceStart => do
        putAnchor a
        emit .mappingStart
        skip
        braceMembers fuel true
      | next => do
        if flat && next = .dash then
          putAnchor a
          emit .listStart
          flatItems fuel
        else if block && next = .listStart then
          putAnchor a
          emit .listStart
          skip
          blockItems fuel
        else if block && next = .mappingStart then
          putAnchor a
          emit .mappingStart
          skip
          blockMembers fuel
        else if a.isSome || t.isSome then
          putAnchor a
          emit (.scalar ⟨t, .plain, []⟩)
        else fail .noContent

/-- Reads the items of an indented list. -/
def blockItems : Nat → Drafting Unit
  | 0 => fail .noContent
  | fuel + 1 => do
    match ← peek with
    | .dash => do
      skip
      if ← nextIs fun t => t = .dash || t = .blockEnd then emitEmpty else node fuel true false
      blockItems fuel
    | .blockEnd => do
      emit .listEnd
      skip
    | _ => fail .noDash

/-- Reads the items of a list that is not indented more than the mapping around it. -/
def flatItems : Nat → Drafting Unit
  | 0 => fail .noContent
  | fuel + 1 => do
    match ← peek with
    | .dash => do
      skip
      if ← nextIs endsPart then emitEmpty else node fuel true false
      flatItems fuel
    | _ => emit .listEnd

/-- Reads the members of an indented mapping. -/
def blockMembers : Nat → Drafting Unit
  | 0 => fail .noContent
  | fuel + 1 => do
    match ← peek with
    | .key => do
      skip
      blockPart fuel
      match ← peek with
      | .value => do
        skip
        blockPart fuel
      | _ => emitEmpty
      blockMembers fuel
    | .blockEnd => do
      emit .mappingEnd
      skip
    | _ => fail .noKey

/-- Reads a key or a value of an indented mapping. -/
def blockPart : Nat → Drafting Unit
  | 0 => fail .noContent
  | fuel + 1 => do
    if ← nextIs fun t => t = .key || t = .value || t = .blockEnd then emitEmpty
    else node fuel true true

/-- Reads the items of a list in brackets, from its start or from behind an item. -/
def bracketItems : Nat → Bool → Drafting Unit
  | 0, _ => fail .noContent
  | fuel + 1, atStart => do
    if !atStart then
      match ← peek with
      | .bracketEnd => pure ()
      | .comma => skip
      | _ => fail .noItemComma
    match ← peek with
    | .bracketEnd => do
      emit .listEnd
      skip
    | .key => do
      emit .mappingStart
      skip
      bracketPair fuel
      bracketItems fuel false
    | _ => do
      node fuel false false
      bracketItems fuel false

/-- Reads a key and a value that stand in brackets.  When the key is empty, the token behind it is
lost. -/
def bracketPair : Nat → Drafting Unit
  | 0 => fail .noContent
  | fuel + 1 => do
    if ← nextIs fun t => t = .value || t = .comma || t = .bracketEnd then
      skip
      emitEmpty
    else node fuel false false
    match ← peek with
    | .value => do
      skip
      if ← nextIs fun t => t = .comma || t = .bracketEnd then emitEmpty else node fuel false false
    | _ => emitEmpty
    emit .mappingEnd

/-- Reads the members of a mapping in braces, from its start or from behind a member. -/
def braceMembers : Nat → Bool → Drafting Unit
  | 0, _ => fail .noContent
  | fuel + 1, atStart => do
    if !atStart then
      match ← peek with
      | .braceEnd => pure ()
      | .comma => skip
      | _ => fail .noMemberComma
    match ← peek with
    | .braceEnd => do
      emit .mappingEnd
      skip
    | .key => do
      skip
      bracePart fuel (· = .value)
      match ← peek with
      | .value => do
        skip
        bracePart fuel fun _ => false
      | _ => emitEmpty
      braceMembers fuel false
    | _ => do
      node fuel false false
      let _ ← peek
      emitEmpty
      braceMembers fuel false

/-- Reads a key or a value of a mapping in braces; a key is also ended by the mark of a value. -/
def bracePart : Nat → (Token → Bool) → Drafting Unit
  | 0, _ => fail .noContent
  | fuel + 1, ends => do
    if ← nextIs fun t => t = .comma || t = .braceEnd || ends t then emitEmpty
    else node fuel false false

end

/-- The handles that need no declaration. -/
def knownHandles : List (List Char × List Char) :=
  [(['!'], ['!']), (['!', '!'], "tag:yaml.org,2002:".toList)]

/-- Reads the declarations before a document; `versioned` if a version has been declared. -/
def declarations : Nat → Bool → Drafting Unit
  | 0, _ => fail .noContent
  | fuel + 1, versioned => do
    match ← peek with
    | .version major minor => do
      if versioned then fail .duplicateVersion
      if major ≠ 1 || (minor ≠ 1 && minor ≠ 2) then fail .unknownVersion
      skip
      declarations fuel true
    | .handle name stem => do
      if ((← get).handles.lookup name).isSome then fail .duplicateHandle
      modify fun d => { d with handles := (name, stem) :: d.handles }
      skip
      declarations fuel versioned
    | .documentStart => pure ()
    | _ => fail .noDocumentStart

/-- Whether a token stands before a document. -/
def isBeforeDocument : Token → Bool
  | .version .. => true
  | .handle .. => true
  | .documentStart => true
  | _ => false

/-- Whether a token stands before or behind a document. -/
def isBetweenDocuments (t : Token) : Bool :=
  isBeforeDocument t || t = .documentEnd || t = .streamEnd

/-- Reads the first document in at most `fuel` steps. -/
def document (fuel : Nat) : Drafting Unit := do
  let marked ← nextIs isBeforeDocument
  if marked then declarations fuel false
  modify fun d => { d with handles := d.handles ++ knownHandles }
  if marked then
    skip
    if ← nextIs isBetweenDocuments then emitEmpty else node fuel true false
  else node fuel true false
  match ← peek with
  | .documentEnd => skip
  | _ => pure ()

end Drafting

/-- The first document of a text. -/
structure Document where
  /-- Its events; none when the text holds no document. -/
  events : List Event
  /-- The places of the numbers of anchors. -/
  places : List (Nat × Nat) := []
  /-- What is wrong with the text behind the events. -/
  fault : Option (Placed Fault) := none
  /-- Whether something follows the document. -/
  hasMore : Bool := false
  deriving DecidableEq, Repr

namespace Document

/-- The first document among some tokens, behind which the text goes wrong if there is a fault. -/
def ofTokens (tokens : List (Placed Token)) (fault : Option (Placed Fault)) : Document :=
  if tokens.map (·.value) = [.streamEnd] then { events := [] }
  else
    let start : Draft := { tokens, fault }
    let (outcome, d) := (Drafting.document (4 * tokens.length + 4)).run start
    { events := d.events.reverse
      places := d.places
      fault :=
        match outcome with
        | .ok () => none
        | .error e => some e
      hasMore := (d.tokens.map (·.value)).dropWhile (· = .documentEnd) ≠ [.streamEnd] }

/-- The first document of a text. -/
def ofString (text : String) : Document :=
  let (ts, fault) := tokens text
  ofTokens ts fault

/-- The events of a document from an anchor on. -/
def anchored (d : Document) (anchor : Nat) : List Event :=
  match d.places.lookup anchor with
  | some place => d.events.drop place
  | none => []

end Document
end Yaml
end CourtDocket
