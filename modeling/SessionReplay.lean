import SessionReplay.Clock.Bench
import SessionReplay.Clock.Timekeeping
import SessionReplay.Config.Json
import SessionReplay.Owner.Change
import SessionReplay.Owner.Json
import SessionReplay.Player
import SessionReplay.Script.Step
import SessionReplay.Session
import SessionReplay.Transport.Bench
import SessionReplay.Violation.Handlers
import SessionReplay.Proofs.Frame.Window
import SessionReplay.Proofs.Frame.Bounds
import SessionReplay.Proofs.Owner.Holding
import SessionReplay.Proofs.Owner.Custody
import SessionReplay.Proofs.Operations.Calls
import SessionReplay.Proofs.Transport.Completion
import SessionReplay.Proofs.Transport.Requests
import SessionReplay.Proofs.Dispatcher.Dispatch
import SessionReplay.Proofs.Dispatcher.Framing
import SessionReplay.Proofs.Dispatcher.Completed
import SessionReplay.Proofs.Dispatcher.Ledger
import SessionReplay.Proofs.Session.Transcript
import SessionReplay.Proofs.Session.Reports
import SessionReplay.Proofs.Session.Law
import SessionReplay.Proofs.Session.Provenance
import SessionReplay.Proofs.Trail.Echo
import SessionReplay.Proofs.Session.Records
import SessionReplay.Proofs.Player.Interference
import SessionReplay.Proofs.Player.Consumer
import SessionReplay.Proofs.Player.Events
import SessionReplay.Proofs.Player.Course
import SessionReplay.Proofs.Player.Audit
import SessionReplay.Proofs.Player.Honouring
import SessionReplay.Proofs.Player.Conservation
import SessionReplay.Proofs.Player.Delivery
import SessionReplay.Proofs.Player.Pace
import SessionReplay.Proofs.Player.Relocation
import SessionReplay.Proofs.Player.Turns
import SessionReplay.Proofs.Player.Splitting
import SessionReplay.Proofs.Owner.Live
import SessionReplay.Proofs.Owner.Ownership
import SessionReplay.Proofs.Owner.Undisturbed
import SessionReplay.Proofs.Owner.Agreement
import SessionReplay.Proofs.Script.Reader
import SessionReplay.Proofs.Script.RoundTrip
import SessionReplay.Proofs.Script.Generated
import SessionReplay.Proofs.Player.TurnSize
import SessionReplay.Proofs.Session.Heartbeats
import SessionReplay.Proofs.Session.Bookkeeping
import SessionReplay.Proofs.Transport.Accounting
import SessionReplay.Proofs.Player.Moments
import SessionReplay.Proofs.Player.Lag
import SessionReplay.Proofs.Script.Building
import SessionReplay.Proofs.Clock.Records
import SessionReplay.Proofs.Clock.Offers
import SessionReplay.Proofs.Clock.RunningMaximum
import SessionReplay.Proofs.Json.Grammar
import SessionReplay.Proofs.Json.Lexing
import SessionReplay.Proofs.Json.Passing
import SessionReplay.Proofs.Json.Members
import SessionReplay.Proofs.Json.Fields
import SessionReplay.Proofs.Config.Reading
import SessionReplay.Proofs.Owner.Reading
import SessionReplay.Proofs.Json.RoundTrip
import SessionReplay.Proofs.Json.Partial
import SessionReplay.Proofs.Script.Alphabet
import SessionReplay.Proofs.Operations.Alternation
import SessionReplay.Proofs.Session.Handles
import SessionReplay.Proofs.Violation.Log
import SessionReplay.Proofs.Violation.Handlers
