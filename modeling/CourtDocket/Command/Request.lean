/-
# What the command line asks for

The options of the binary `docket`, `RenderArgs` and `ConfigArgs` of `docket-cli`, and
`apply_overrides`; §10.7 of the specification.

The program has two commands: `render` shows the docket of a snapshot, `config` the settings.  The
options `--verbose` and `--config` may stand before and behind the name of the command; those
behind it take the place of those before it.
-/

import CourtDocket.Command.Arguments
import CourtDocket.Record.Snapshot
import CourtDocket.Settings.Override

namespace CourtDocket
namespace Command

/-- A request for the docket of a snapshot. -/
structure RenderRequest where
  /-- The path of the snapshot. -/
  snapshot : String
  /-- The clock. -/
  now : Option Int64 := none
  /-- The buckets of the schedule. -/
  filter : Option BucketFilter := none
  /-- The order of the schedule. -/
  order : Option TimeOrder := none
  /-- The query of the schedule. -/
  query : Option String := none
  /-- The query of the open defences. -/
  defenceQuery : Option String := none
  /-- The tag of the open defences. -/
  tag : Option String := none
  /-- The states of the seat. -/
  status : Option SeatFilter := none
  /-- The order of the open defences. -/
  startOrder : Option TimeOrder := none
  /-- The starting times of the open defences. -/
  window : Option StartWindow := none
  /-- Whether only the counts are asked for. -/
  summary : Bool := false
  /-- Whether the output is on several lines. -/
  pretty : Bool := false
  deriving DecidableEq, Repr

/-- A command. -/
inductive Task where
  /-- Shows the docket of a snapshot. -/
  | render (r : RenderRequest)
  /-- Shows the settings, as JSON or as YAML. -/
  | config (json : Bool)
  deriving DecidableEq, Repr

/-- What the command line asks for. -/
structure Request where
  /-- How often verbosity is asked for, at most 255 times. -/
  verbosity : Nat
  /-- The path of the settings. -/
  settings : Option String
  /-- The command. -/
  task : Task
  deriving DecidableEq, Repr

/-- The parameter `--config`. -/
def settingsParameter : Parameter String :=
  ⟨"config", fun s => if s = "" then none else some s⟩

/-- The parameter `--now-ms`. -/
def nowParameter : Parameter Int64 :=
  ⟨"now-ms", fun s => Override.readCount? s.toList⟩

/-- The parameter `--filter`. -/
def filterParameter : Parameter BucketFilter := .ofVocabulary "filter" BucketFilter.vocabulary

/-- The parameter `--sort`. -/
def orderParameter : Parameter TimeOrder := .ofVocabulary "sort" TimeOrder.scheduleVocabulary

/-- The parameter `--query`. -/
def queryParameter : Parameter String := ⟨"query", some⟩

/-- The parameter `--defence-query`. -/
def defenceQueryParameter : Parameter String := ⟨"defence-query", some⟩

/-- The parameter `--tag`. -/
def tagParameter : Parameter String := ⟨"tag", some⟩

/-- The parameter `--claim-status`. -/
def statusParameter : Parameter SeatFilter := .ofVocabulary "claim-status" SeatFilter.vocabulary

/-- The parameter `--time-sort`. -/
def startOrderParameter : Parameter TimeOrder :=
  .ofVocabulary "time-sort" TimeOrder.startVocabulary

/-- The parameter `--start-window`. -/
def windowParameter : Parameter StartWindow := .ofVocabulary "start-window" StartWindow.vocabulary

/-- The options of a scope. -/
def specs (scope : Scope) : List OptionSpec :=
  [flag verboseName, settingsParameter.spec] ++
    match scope with
    | .program => []
    | .config => [flag "json"]
    | .render =>
      [nowParameter.spec, filterParameter.spec, orderParameter.spec, queryParameter.spec,
        defenceQueryParameter.spec, tagParameter.spec, statusParameter.spec,
        startOrderParameter.spec, windowParameter.spec, flag "summary", flag "pretty"]

/-- The request of the arguments of `render`. -/
def RenderRequest.ofArguments (a : Arguments) (snapshot : String) : RenderRequest :=
  { snapshot
    now := a.value? nowParameter
    filter := a.value? filterParameter
    order := a.value? orderParameter
    query := a.value? queryParameter
    defenceQuery := a.value? defenceQueryParameter
    tag := a.value? tagParameter
    status := a.value? statusParameter
    startOrder := a.value? startOrderParameter
    window := a.value? windowParameter
    summary := a.has "summary"
    pretty := a.has "pretty" }

/-- The command of its arguments. -/
def Task.ofArguments (scope : Scope) (a : Arguments) : Except Stop Task :=
  match scope, a.positional with
  | .render, some path => .ok (.render (.ofArguments a path))
  | .config, _ => .ok (.config (a.has "json"))
  | _, _ => .error .usage

/-- Reads the command line. -/
def Request.parse (args : List String) : Except Stop Request := do
  let (before, command) ← readArguments .program (specs .program) {} none args
  match command with
  | none => throw .usage
  | some (scope, rest) => do
    let (behind, _) ← readArguments scope (specs scope) {} none rest
    let task ← Task.ofArguments scope behind
    let verbosity := behind.verbosity
    pure
      { verbosity := if verbosity = 0 then before.verbosity else verbosity
        settings := (behind.value? settingsParameter).or (before.value? settingsParameter)
        task }

/-- The snapshot with what a request puts in place of its clock and its settings. -/
def RenderRequest.apply (r : RenderRequest) (s : Snapshot) : Snapshot :=
  let c := s.scheduleControls
  let d := s.openDefenceControls
  { s with
    now := r.now.getD s.now
    scheduleControls :=
      { filter := r.filter.getD c.filter
        order := r.order.getD c.order
        query := r.query.getD c.query }
    openDefenceControls :=
      { query := r.defenceQuery.getD d.query
        tag := r.tag.getD d.tag
        status := r.status.getD d.status
        order := r.startOrder.getD d.order
        window := r.window.getD d.window } }

end Command
end CourtDocket
