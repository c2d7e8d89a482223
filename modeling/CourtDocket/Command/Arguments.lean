/-
# Arguments of the command line

How the binary `docket` takes its command line apart, before any option has a meaning.

The arguments are read from left to right, and the first one that is wrong decides.

* `--name value` and `--name=value` give an option a value, `--name` sets a flag; each may stand
  once, `--verbose` as often as one likes.  `-vv` is `--verbose` twice; more than 255 times count as
  255 times.
* A value that is an argument of its own may not start with a dash, except for a single dash.
* What follows `--` is no option.
* `--help` and, before the name of the command, `--version` end the reading.
-/

import CourtDocket.Text.Vocabulary

namespace CourtDocket
namespace Command

/-- What an argument belongs to. -/
inductive Scope where
  /-- The program. -/
  | program
  /-- The command that shows a docket. -/
  | render
  /-- The command that shows the settings. -/
  | config
  deriving DecidableEq, Repr

/-- Why there is nothing to run. -/
inductive Stop where
  /-- The arguments are wrong. -/
  | usage
  /-- The help is asked for. -/
  | help
  /-- The version is asked for. -/
  | version
  deriving DecidableEq, Repr

/-- An option that has a value. -/
structure Parameter (α : Type) where
  /-- Its name. -/
  name : String
  /-- Reads its value. -/
  read? : String → Option α

/-- The parameter whose values are the words of a vocabulary. -/
def Parameter.ofVocabulary {α : Type} (name : String) (v : Vocabulary α) : Parameter α :=
  ⟨name, fun s => (v.find s).toOption⟩

/-- An option. -/
structure OptionSpec where
  /-- Its name. -/
  name : String
  /-- Whether it accepts a value; a flag has none. -/
  accepts : Option (String → Bool)

/-- The option of a parameter. -/
def Parameter.spec {α : Type} (p : Parameter α) : OptionSpec :=
  ⟨p.name, some fun s => (p.read? s).isSome⟩

/-- The option of a flag. -/
def flag (name : String) : OptionSpec :=
  ⟨name, none⟩

/-- The flag that may stand more than once. -/
def verboseName : String := "verbose"

/-- The arguments of one scope. -/
structure Arguments where
  /-- The options and their values, those of flags being empty. -/
  options : List (String × String) := []
  /-- The argument that is no option. -/
  positional : Option String := none
  deriving DecidableEq, Repr

namespace Arguments

/-- How often an option stands. -/
def count (a : Arguments) (name : String) : Nat :=
  a.options.countP (·.1 = name)

/-- Whether an option stands. -/
def has (a : Arguments) (name : String) : Bool :=
  0 < a.count name

/-- How often verbosity is asked for; an octet counts it, and stops at its last number. -/
def verbosity (a : Arguments) : Nat :=
  min (a.count verboseName) 255

/-- The value of a parameter. -/
def value? {α : Type} (a : Arguments) (p : Parameter α) : Option α :=
  (a.options.lookup p.name).bind p.read?

/-- The arguments with one more option. -/
def add (a : Arguments) (name value : String) : Arguments :=
  { a with options := (name, value) :: a.options }

/-- The arguments with one more flag. -/
def addFlag (a : Arguments) (name : String) : Except Stop Arguments :=
  if a.has name && name ≠ verboseName then .error .usage else .ok (a.add name "")

/-- The arguments with a value for an option. -/
def addValue (a : Arguments) (name : String) (accepts : String → Bool) (value : String) :
    Except Stop Arguments :=
  if a.has name || !accepts value then .error .usage else .ok (a.add name value)

/-- The arguments with one that is no option; only one scope has such an argument. -/
def addPositional (scope : Scope) (a : Arguments) (s : String) : Except Stop Arguments :=
  if scope = .render && a.positional.isNone && s ≠ "" then .ok { a with positional := some s }
  else .error .usage

/-- The arguments with the flags of a cluster such as `-vv`. -/
def addCluster (scope : Scope) (a : Arguments) : List Char → Except Stop Arguments
  | [] => .ok a
  | c :: cs =>
    if c = 'v' then addCluster scope (a.add verboseName "") cs
    else if c = 'h' then .error .help
    else if c = 'V' && scope = .program then .error .version
    else .error .usage

end Arguments

/-- The command of a name. -/
def command? (s : String) : Option Scope :=
  if s = "render" then some .render else if s = "config" then some .config else none

/-- The answer to a request for help on the named commands. -/
def helpOn : List String → Stop
  | [] => .help
  | [s] => if (command? s).isSome || s = "help" then .help else .usage
  | _ => .usage

/-- The name of an option and what stands behind an equals sign. -/
def splitOption (cs : List Char) : String × Option String :=
  (String.ofList (cs.takeWhile (· ≠ '=')),
    match cs.dropWhile (· ≠ '=') with
    | [] => none
    | _ :: value => some (String.ofList value))

/-- Reads the arguments of a scope up to their end or to the name of a command, an option waiting
for its value if there is one; `specs` are the options of the scope. -/
def readArguments (scope : Scope) (specs : List OptionSpec) (a : Arguments)
    (waiting : Option (String × (String → Bool))) :
    List String → Except Stop (Arguments × Option (Scope × List String))
  | [] => if waiting.isSome then .error .usage else .ok (a, none)
  | s :: rest =>
    match waiting, s.toList with
    | some _, '-' :: _ :: _ => .error .usage
    | some (name, accepts), _ => do
      readArguments scope specs (← a.addValue name accepts s) none rest
    | none, ['-', '-'] => do
      pure (← rest.foldlM (Arguments.addPositional scope) a, none)
    | none, '-' :: '-' :: cs =>
      let (name, attached) := splitOption cs
      if name = "help" && attached.isNone then .error .help
      else if name = "version" && attached.isNone && scope = .program then .error .version
      else
        match specs.find? (·.name = name), attached with
        | none, _ => .error .usage
        | some ⟨_, none⟩, some _ => .error .usage
        | some ⟨_, none⟩, none => do
          readArguments scope specs (← a.addFlag name) none rest
        | some ⟨_, some accepts⟩, some value => do
          readArguments scope specs (← a.addValue name accepts value) none rest
        | some ⟨_, some accepts⟩, none => readArguments scope specs a (some (name, accepts)) rest
    | none, '-' :: c :: cs => do
      readArguments scope specs (← a.addCluster scope (c :: cs)) none rest
    | none, _ =>
      if scope = .program then
        match command? s with
        | some command => .ok (a, some (command, rest))
        | none => .error (if s = "help" then helpOn rest else .usage)
      else do
        readArguments scope specs (← a.addPositional scope s) none rest

end Command
end CourtDocket
