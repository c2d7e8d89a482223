import CourtDocket.Main
import CourtDocket.Proofs.Docket.Clock
import CourtDocket.Proofs.Docket.Deletion
import CourtDocket.Proofs.Docket.Overlay
import CourtDocket.Proofs.Docket.SeatFields
import CourtDocket.Proofs.Record.Blank
import CourtDocket.Proofs.Record.RoundTrip
import CourtDocket.Time.Published
import CourtDocket.Proofs.Docket.Narrowing
import CourtDocket.Proofs.Docket.Independence
import CourtDocket.Proofs.Docket.SameCase
import CourtDocket.Proofs.Time.Calendar
import CourtDocket.Proofs.Time.Scan
import CourtDocket.Proofs.Time.IsoText
import CourtDocket.Proofs.Docket.CountdownFields
import CourtDocket.Proofs.Time.Precision
import CourtDocket.Proofs.Json.Arrangement
import CourtDocket.Proofs.Record.Arrangement
import CourtDocket.Proofs.Command.PrintedSettings
import CourtDocket.Proofs.Command.Failure
import CourtDocket.Proofs.Command.Warnings
import CourtDocket.Proofs.Command.Arguments
import CourtDocket.Proofs.Command.Insertion
import CourtDocket.Proofs.Command.Replacement
import CourtDocket.Proofs.Command.Verbosity
import CourtDocket.Proofs.Text.AsciiCase
import CourtDocket.Proofs.Docket.Search
import CourtDocket.Proofs.Time.DayCount
import CourtDocket.Proofs.Time.Forms
import CourtDocket.Proofs.Votes
import CourtDocket.Proofs.Countdown
import CourtDocket.Proofs.Policy
import CourtDocket.Proofs.Number.Nearest
import CourtDocket.Proofs.Number.Share
import CourtDocket.Proofs.Json.Writing
import CourtDocket.Proofs.Record.Counts
import CourtDocket.Proofs.Docket.Counts
import CourtDocket.Proofs.Duration
import CourtDocket.Proofs.Ring.Ramp
import CourtDocket.Proofs.Settings.SameDocument
import CourtDocket.Proofs.Command.OutputModes
