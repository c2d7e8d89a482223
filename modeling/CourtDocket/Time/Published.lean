/-
# Instants in JSON documents

The form in which a document gives a `Timestamp` of `docket-core`.

An instant in a document is a string in the relaxed form of RFC 3339; it keeps every digit down to
the nanosecond.
-/

import CourtDocket.Json.Reader
import CourtDocket.Time.Spelling

namespace CourtDocket

/-- Reads an instant. -/
def Timestamp.read : Json.Reader Timestamp := fun v => do
  let s ← Json.Reader.text "an RFC 3339 formatted date and time string" v
  match Timestamp.readRelaxed s with
  | .ok t => pure t
  | .error fault => throw (.custom fault.message)

end CourtDocket
