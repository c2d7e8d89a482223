/-
# The log

§10.3 of the specification: the events of the components `normalize`, `claim` and `projection` of
`docket-view` and of `docket-cli`.

What is worth telling while a docket is made.  A time that cannot be read is a warning, told when
the entries are made; a reservation that is over is told when the row is made; the rest says how
far the work has come.  `Snapshot.viewEvents` lists the events of one docket in their order.
-/

import CourtDocket.Docket.View

namespace CourtDocket

/-- How important an event is. -/
inductive Level where
  /-- The work has failed. -/
  | error
  /-- Something is wrong with a record. -/
  | warn
  /-- The work is done. -/
  | info
  /-- A step of the work. -/
  | debug
  deriving DecidableEq, Repr

namespace Level

/-- The word for a level. -/
def name : Level → String
  | error => "ERROR"
  | warn => "WARN"
  | info => "INFO"
  | debug => "DEBUG"

/-- How often verbosity must be asked for before events of the level are told. -/
def threshold : Level → Nat
  | error => 0
  | warn => 0
  | info => 1
  | debug => 2

end Level

/-- An event. -/
inductive LogEvent where
  /-- A time of a case cannot be read. -/
  | malformedTime (id field value : String)
  /-- The reservation of a seat is over. -/
  | lapsed (defendant : String) (deadline : Int64)
  /-- A docket has been made. -/
  | projected (now : Int64) (summary : DocketSummary)
  /-- A docket is about to be printed. -/
  | rendered (now : Int64) (rows : Nat)
  /-- The settings are about to be read. -/
  | loadingSettings (path : String)
  /-- The work has failed. -/
  | failed (reason : String)
  deriving DecidableEq, Repr

namespace LogEvent

/-- How important an event is. -/
def level : LogEvent → Level
  | malformedTime .. => .warn
  | lapsed .. => .debug
  | projected .. => .debug
  | rendered .. => .info
  | loadingSettings _ => .debug
  | failed _ => .error

/-- How a character of a reason is written: control characters that a terminal would obey as
escapes. -/
def plainChar (c : Char) : List Char :=
  let n := c.toNat
  if n = 0x07 || n = 0x08 || n = 0x0c || n = 0x1b || n = 0x7f then
    ['\\', 'x', Nat.digitChar (n / 16), Nat.digitChar (n % 16)]
  else if 0x80 ≤ n && n ≤ 0x9f then ['\\', 'u', '\x7b'] ++ Text.hexDigits n ++ ['\x7d']
  else [c]

/-- The text of an event without its level. -/
def text : LogEvent → String
  | malformedTime id field value =>
    "malformed timestamp treated as absent case=" ++ id ++ " field=" ++ Text.quoted field ++
      " value=" ++ Text.quoted value
  | lapsed defendant deadline =>
    "reservation window lapsed; seat reopened defendant=" ++ defendant ++ " reserved_until_ms=" ++
      toString deadline.toInt
  | projected now s =>
    "projected docket now_ms=" ++ toString now.toInt ++ " active=" ++ toString s.activeRows ++
      " scheduled=" ++ toString s.scheduledRows ++ " open_defence=" ++
      toString s.openDefenceRows ++ " claimable=" ++ toString s.claimableRows
  | rendered now rows =>
    "docket projected now_ms=" ++ toString now.toInt ++ " rows=" ++ toString rows
  | loadingSettings path => "loading view config path=" ++ path
  | failed reason => String.ofList (reason.toList.flatMap plainChar)

/-- The line of an event. -/
def line (e : LogEvent) : String :=
  e.level.name ++ " " ++ e.text

end LogEvent

/-- The warning about a time, if it cannot be read. -/
def Reading.warning (id field : String) (r : Reading) : List LogEvent :=
  (r.malformed?.map (LogEvent.malformedTime id field)).toList

/-- The warnings about a case. -/
def CaseEntry.warnings (e : CaseEntry) : List LogEvent :=
  e.scheduledFor.warning e.id "scheduledForIso" ++ e.createdAt.warning e.id "createdAtIso"

/-- The warnings about a call for a defence. -/
def OpenDefenceEntry.warnings (e : OpenDefenceEntry) : List LogEvent :=
  e.scheduledFor.warning e.caseId "scheduledForIso" ++ e.filedAt.warning e.caseId "filedAtIso"

/-- What is told of a seat. -/
def Seat.events : Seat → List LogEvent
  | lapsed defendant deadline => [.lapsed defendant deadline]
  | _ => []

namespace Snapshot

/-- The events of the panel of a bucket. -/
def bucketEvents (settings : Settings) (s : Snapshot) (b : Bucket) : List LogEvent :=
  (s.bucketEntries b).flatMap CaseEntry.warnings ++
    (s.selectedCases b).flatMap fun e => (e.seat (s.viewpoint settings)).events

/-- The events of the panel of open defences. -/
def openDefenceEvents (settings : Settings) (s : Snapshot) : List LogEvent :=
  s.openDefenceEntries.flatMap OpenDefenceEntry.warnings ++
    s.selectedCalls.flatMap fun e => (e.seat (s.viewpoint settings)).events

/-- The events of a docket. -/
def viewEvents (settings : Settings) (s : Snapshot) : List LogEvent :=
  s.bucketEvents settings .active ++ s.bucketEvents settings .scheduled ++
    s.openDefenceEvents settings ++ [.projected s.now (s.view settings).summary]

end Snapshot
end CourtDocket
