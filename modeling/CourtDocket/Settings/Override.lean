/-
# Settings from the environment

`apply_env_overrides` of `ViewConfig` and `parse_override`, component `config` of `docket-view`,
§10.4 of the specification.

Four variables take the place of settings.  White space around a value does not count; a count is
decimal digits with an optional sign, and the word `off`, in any letter case, is no reservation
window.  The first value that cannot be read, in the order of the table, is an error.

| variable | setting |
| --- | --- |
| `DOCKET_POLICY_HORIZON_MS` | the longest time to a hearing |
| `DOCKET_RESERVATION_WINDOW_MS` | how long a seat stays reserved |
| `DOCKET_RING_CIRCUMFERENCE` | the circumference of a ring |
| `DOCKET_HEARING_SESSION_MS` | the length of a hearing |
-/

import CourtDocket.Settings.Basic
import CourtDocket.Text.Quoted

namespace CourtDocket

/-- A variable whose value cannot be read. -/
structure OverrideFault where
  /-- The name of the variable. -/
  variableName : String
  /-- Its value. -/
  value : String
  deriving DecidableEq, Repr

/-- The wording of the fault. -/
def OverrideFault.message (e : OverrideFault) : String :=
  "invalid value for " ++ e.variableName ++ ": " ++ Text.quoted e.value

namespace Override

/-- The variable of the longest time to a hearing. -/
def horizonVariable : String := "DOCKET_POLICY_HORIZON_MS"

/-- The variable of the time for which a seat stays reserved. -/
def windowVariable : String := "DOCKET_RESERVATION_WINDOW_MS"

/-- The variable of the circumference of a ring. -/
def circumferenceVariable : String := "DOCKET_RING_CIRCUMFERENCE"

/-- The variable of the length of a hearing. -/
def sessionVariable : String := "DOCKET_HEARING_SESSION_MS"

/-- The variables in the order in which they are read. -/
def variableNames : List String :=
  [horizonVariable, windowVariable, circumferenceVariable, sessionVariable]

/-- Reads a count. -/
def readCount? (cs : List Char) : Option Int64 :=
  (Number.readInteger? cs).bind int64?

/-- Reads a count, or the word for none. -/
def readWindow? (cs : List Char) : Option (Option Int64) :=
  if cs.map Char.toLower = ['o', 'f', 'f'] then some none else (readCount? cs).map some

/-- The value of a variable, the present one if the variable is not set. -/
def value {α : Type} (env : String → Option String) (name : String)
    (read? : List Char → Option α) (present : α) : Except OverrideFault α :=
  match env name with
  | none => .ok present
  | some raw =>
    match read? (Text.trimChars raw.toList) with
    | some a => .ok a
    | none => .error ⟨name, raw⟩

end Override

open Override in
/-- The settings with those of the environment in place. -/
def Settings.override (env : String → Option String) (s : Settings) :
    Except OverrideFault Settings := do
  let policyHorizon ← value env horizonVariable readCount? s.policyHorizon
  let reservationWindow ← value env windowVariable readWindow? s.reservationWindow
  let ringCircumference ← value env circumferenceVariable Number.readFloat? s.ringCircumference
  let hearingSession ← value env sessionVariable readCount? s.hearingSession
  pure { s with policyHorizon, reservationWindow, ringCircumference, hearingSession }

end CourtDocket
