import Predictor.Database.Table
import Predictor.Main
import Predictor.Store.Memory
import Predictor.Proofs.Engine.Transition
import Predictor.Proofs.Engine.Effect
import Predictor.Proofs.Engine.Accounting
import Predictor.Proofs.Engine.EventWords
import Predictor.Proofs.Engine.Lines
import Predictor.Proofs.Engine.Quiescence
import Predictor.Proofs.Engine.Drain
import Predictor.Proofs.Engine.Deeds
import Predictor.Proofs.Store.Records
import Predictor.Proofs.Engine.Acceptance
import Predictor.Proofs.Engine.Filing
import Predictor.Proofs.Engine.Aftermath
import Predictor.Proofs.Engine.Order
import Predictor.Proofs.Engine.Agreement
import Predictor.Proofs.Engine.Desk
import Predictor.Proofs.Engine.Batch
import Predictor.Proofs.Store.FirstOutcome
import Predictor.Proofs.Database.SameStore
import Predictor.Proofs.CommandLine.Accepted
import Predictor.Proofs.Engine.Alike
import Predictor.Proofs.Engine.Lockstep
import Predictor.Proofs.Engine.Isolation
import Predictor.Proofs.Telemetry.Totals
import Predictor.Proofs.Engine.Completion
import Predictor.Proofs.Engine.Commutation
import Predictor.Proofs.Store.Independence
import Predictor.Proofs.Engine.Bookkeeping
import Predictor.Proofs.Engine.Conservation
import Predictor.Proofs.Database.Traffic
import Predictor.Proofs.Engine.OverDatabase
import Predictor.Proofs.CommandLine.Readback
import Predictor.Proofs.Engine.Gatekeeping
import Predictor.Proofs.CommandLine.Ending
import Predictor.Proofs.Text.Ascii
import Predictor.Proofs.Binary64.Rounding
import Predictor.Proofs.Binary64.Shortest
import Predictor.Proofs.Json.Scaling
import Predictor.Proofs.Json.Spelling
import Predictor.Proofs.Json.NumberText
import Predictor.Proofs.Json.Deviation
import Predictor.Proofs.Json.RoundTrip
import Predictor.Proofs.Label.Winner
import Predictor.Proofs.Json.WireFormat
import Predictor.Proofs.Json.Strings
import Predictor.Proofs.Id
import Predictor.Proofs.Time.Calendar
import Predictor.Proofs.Time.Rfc3339
import Predictor.Proofs.Json.Records
import Predictor.Proofs.Label.Decoding
import Predictor.Proofs.Engine.Refusal
import Predictor.Proofs.Engine.Rollback
import Predictor.Proofs.Classifier.Headers
import Predictor.Proofs.Classifier.Identity
import Predictor.Proofs.Classifier.Answers
import Predictor.Proofs.Store.Listing
import Predictor.Proofs.Engine.Queue
import Predictor.Proofs.Engine.Settling
import Predictor.Proofs.Text.Numeral
import Predictor.Proofs.Text.Trimming
import Predictor.Proofs.Configuration
import Predictor.Proofs.FirstError
import Predictor.Proofs.Configuration
import Predictor.Proofs.Database.Replies
