import FormatBridge.Main
import FormatBridge.Rehearsal
import FormatBridge.Proofs.LineReading
import FormatBridge.Proofs.Routing
import FormatBridge.Proofs.Course
import FormatBridge.Proofs.Outcome
import FormatBridge.Proofs.Lookup
import FormatBridge.Proofs.JsonText
import FormatBridge.Proofs.JsonWriting
import FormatBridge.Proofs.JsonNumber
import FormatBridge.Proofs.JsonGrammar
import FormatBridge.Proofs.JsonValue
import FormatBridge.Proofs.Wire
import FormatBridge.Proofs.Writing
import FormatBridge.Proofs.LineStream
import FormatBridge.Proofs.Exchange
import FormatBridge.Proofs.Formatting
import FormatBridge.Proofs.RoundTrip
import FormatBridge.Proofs.Output
import FormatBridge.Proofs.Result
import FormatBridge.Proofs.Registration
import FormatBridge.Proofs.Acceptance
import FormatBridge.Proofs.OwnReplies
import FormatBridge.Proofs.Classification
import FormatBridge.Proofs.ReplyRoundTrip
import FormatBridge.Proofs.Reporting
import FormatBridge.Proofs.JunkLines
import FormatBridge.Proofs.Buffered
import FormatBridge.Proofs.Backpressure
import FormatBridge.Proofs.Performance
import FormatBridge.Proofs.Untaken
import FormatBridge.Proofs.Loading
import FormatBridge.Proofs.Actions
import FormatBridge.Proofs.Tolerance
import FormatBridge.Proofs.Numbering
