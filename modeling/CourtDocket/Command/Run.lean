/-
# Running the program

The binary `docket`: `load_config`, `run_render` with `read_snapshot` and `format_output`, and
`run_config` of `docket-cli`; §10.2, §10.3 and §10.7 of the specification.

What the program prints, with which code it ends and what it logs, given its arguments and what it
finds: the standard input, the files and the environment.  The settings come first; when they
cannot be had, nothing else is looked at.  A failure is logged once and last, and leaves nothing
printed.

Of a document that is refused, the log tells the wording of the fault (`SettingsFault.report`,
`Json.ReadFault.report`).  Its place in the text and the reason told once more behind the place, as
the cause of itself, are not represented.  A snapshot that can be opened and not read has no place,
and the reason stands twice there (`loadSnapshot`).
-/

import CourtDocket.Command.Request
import CourtDocket.Docket.Log
import CourtDocket.Settings.Document

namespace CourtDocket
namespace Command

/-- What is found under a path. -/
inductive FileAnswer where
  /-- It cannot be opened. -/
  | unopened (reason : String)
  /-- It can be opened and not read. -/
  | unread (reason : String)
  /-- Its bytes. -/
  | content (bytes : List UInt8)

/-- What the program finds. -/
structure World where
  /-- The standard input. -/
  input : List UInt8
  /-- The files. -/
  file : String → FileAnswer
  /-- The environment. -/
  env : String → Option String
  /-- The help that arguments ask for; its texts are not said here, and may be any. -/
  help : List String → String := fun _ => ""

/-- What the program leaves. -/
structure Outcome where
  /-- The code with which it ends. -/
  exit : Nat
  /-- What it prints. -/
  output : String
  /-- What it logs. -/
  events : List LogEvent
  deriving DecidableEq

/-- The outcome of a failure. -/
def Outcome.failure (events : List LogEvent) (reason : String) : Outcome :=
  ⟨1, "", events ++ [.failed reason]⟩

/-- The text of a file of settings. -/
def settingsText (path : String) : FileAnswer → Except String String
  | .unopened reason => .error ("cannot read config " ++ path ++ ": " ++ reason)
  | .unread reason => .error ("cannot read config " ++ path ++ ": " ++ reason)
  | .content bytes =>
    match Json.Symbol.toChars? (Json.Symbol.ofBytes bytes) with
    | some cs => .ok (String.ofList cs)
    | none => .error ("cannot read config " ++ path ++ ": stream did not contain valid UTF-8")

/-- The settings in a file.  The reason of a refusal ends before the place of the fault in the
text. -/
def settingsIn (w : World) (path : String) : Except String Settings := do
  let text ← settingsText path (w.file path)
  (Settings.parse text).mapError SettingsFault.report

/-- The settings of a run: those of the file, if there is one, and of the environment. -/
def loadSettings (w : World) (path : Option String) : Except String Settings := do
  let base ←
    match path with
    | none => pure {}
    | some p => (settingsIn w p).mapError fun reason => "loading config " ++ p ++ ": " ++ reason
  (base.override w.env).mapError fun e =>
    "applying DOCKET_* environment overrides: " ++ e.message

/-- Whether a path stands for the standard input: a dash, empty and single-point steps aside. -/
def isInputPath (path : String) : Bool :=
  let steps := path.splitOn "/"
  steps.head? = some "-" && (steps.drop 1).all fun s => s = "" || s = "."

/-- The snapshot among the bytes that come from a place.  The reason of a refusal ends before the
place of the fault in the text. -/
def snapshotFrom (place : String) (bytes : List UInt8) : Except String Snapshot :=
  (Snapshot.parse (Json.Symbol.ofBytes bytes)).mapError fun e =>
    "parsing snapshot " ++ place ++ ": " ++ e.report

/-- The snapshot of a run. -/
def loadSnapshot (w : World) (path : String) : Except String Snapshot :=
  if isInputPath path then snapshotFrom "from stdin" w.input
  else
    match w.file path with
    | .unopened reason => .error ("opening snapshot " ++ path ++ ": " ++ reason)
    | .unread reason =>
      .error ("parsing snapshot " ++ path ++ ": serialization error: " ++ reason ++ ": " ++ reason)
    | .content bytes => snapshotFrom path bytes

/-- A document on one line or on several. -/
def documentText (pretty : Bool) (v : Json) : String :=
  String.ofList (if pretty then v.indented else v.compact)

/-- What a request prints of a docket. -/
def RenderRequest.output (r : RenderRequest) (v : DocketView) : String :=
  documentText r.pretty (if r.summary then v.summary.toJson else v.toJson) ++ "\n"

/-- What a request prints of the settings. -/
def configOutput (json : Bool) (s : Settings) : String :=
  (if json then documentText true s.toJson else s.toYaml) ++ "\n"

/-- Runs a command with given settings. -/
def Task.run (w : World) (settings : Settings) (events : List LogEvent) : Task → Outcome
  | .config json => ⟨0, configOutput json settings, events⟩
  | .render r =>
    match loadSnapshot w r.snapshot with
    | .error reason => .failure events reason
    | .ok found =>
      let s := r.apply found
      let v := s.view settings
      let rows := v.active.length + v.scheduled.length + v.openDefence.length
      ⟨0, r.output v, events ++ s.viewEvents settings ++ [.rendered v.now rows]⟩

/-- Runs a request; all events are kept. -/
def Request.run (w : World) (r : Request) : Outcome :=
  let events := (r.settings.map LogEvent.loadingSettings).toList
  match loadSettings w r.settings with
  | .error reason => .failure events reason
  | .ok settings => r.task.run w settings events

/-- The events that a verbosity lets through. -/
def admitted (verbosity : Nat) (events : List LogEvent) : List LogEvent :=
  events.filter fun e => e.level.threshold ≤ verbosity

/-- The version of the program. -/
def versionText : String := "docket 0.1.0\n"

/-- The outcome when there is nothing to run, given the text of the help. -/
def Stop.outcome (help : String) : Stop → Outcome
  | .usage => ⟨2, "", []⟩
  | .help => ⟨0, help, []⟩
  | .version => ⟨0, versionText, []⟩

/-- Runs a request; the events that its verbosity lets through are kept. -/
def Request.runLogged (w : World) (r : Request) : Outcome :=
  let o := r.run w
  { o with events := admitted r.verbosity o.events }

/-- Runs the program. -/
def run (w : World) (args : List String) : Outcome :=
  match Request.parse args with
  | .error stop => stop.outcome (w.help args)
  | .ok r => r.runLogged w

/-- Whether a run reads the standard input. -/
def Request.needsInput (r : Request) : Bool :=
  match r.task with
  | .render t => isInputPath t.snapshot
  | .config _ => false

/-- The files that a run may read. -/
def Request.files (r : Request) : List String :=
  r.settings.toList ++
    match r.task with
    | .render t => if isInputPath t.snapshot then [] else [t.snapshot]
    | .config _ => []

end Command
end CourtDocket
