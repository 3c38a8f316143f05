import ArchDiagram.Event.Emitter
import ArchDiagram.Main
import ArchDiagram.Run.Rehearsal
import ArchDiagram.Proofs.Run.Course
import ArchDiagram.Proofs.Run.Generation
import ArchDiagram.Proofs.Run.Repair
import ArchDiagram.Proofs.Run.Pipeline
import ArchDiagram.Proofs.Run.Report
import ArchDiagram.Proofs.Run.Delivery
import ArchDiagram.Proofs.Run.RepairChain
import ArchDiagram.Proofs.Provider.Sent
import ArchDiagram.Proofs.Run.Frame
import ArchDiagram.Proofs.Run.Payer
import ArchDiagram.Proofs.Web.Sse
import ArchDiagram.Proofs.Event.Emitter
import ArchDiagram.Proofs.Run.Gate
import ArchDiagram.Proofs.Run.Departure
import ArchDiagram.Proofs.Run.Parallel
import ArchDiagram.Proofs.Run.Occasion
import ArchDiagram.Proofs.Run.Invariant
import ArchDiagram.Proofs.Run.Passage
import ArchDiagram.Proofs.Run.Cause
import ArchDiagram.Proofs.Run.Input
import ArchDiagram.Proofs.Run.Quote
import ArchDiagram.Proofs.Run.Recut
import ArchDiagram.Proofs.Text.Utf8
import ArchDiagram.Proofs.Json.Literal
import ArchDiagram.Proofs.Json.Number
import ArchDiagram.Proofs.Json.Reader
import ArchDiagram.Proofs.Event.Wire
import ArchDiagram.Proofs.Provider.Stream
import ArchDiagram.Proofs.Server.Reply
import ArchDiagram.Proofs.Server.Route
import ArchDiagram.Proofs.Run.Credential
import ArchDiagram.Proofs.Provider.Retry
import ArchDiagram.Proofs.Provider.Limit
import ArchDiagram.Proofs.Json.Record
import ArchDiagram.Proofs.Provider.Report
import ArchDiagram.Proofs.Text.Scan
import ArchDiagram.Proofs.Diagram.Link
import ArchDiagram.Proofs.Diagram.Line
import ArchDiagram.Proofs.Diagram.Path
import ArchDiagram.Proofs.Pricing.Family
import ArchDiagram.Proofs.Pricing.Snapshot
import ArchDiagram.Proofs.Json.Read
import ArchDiagram.Proofs.Verdict.Checker
import ArchDiagram.Proofs.Text.Trim
import ArchDiagram.Proofs.Text.Occurrence
import ArchDiagram.Proofs.Text.Strict
import ArchDiagram.Proofs.Text.Base64
import ArchDiagram.Proofs.Diagram.Mapping
import ArchDiagram.Proofs.Diagram.Fence
import ArchDiagram.Proofs.Run.Bare
import ArchDiagram.Proofs.Repository.Answer
import ArchDiagram.Proofs.Repository.Fetch
import ArchDiagram.Proofs.Repository.Readme
import ArchDiagram.Proofs.Repository.Listing
import ArchDiagram.Proofs.Web.Percent
import ArchDiagram.Proofs.Web.Path
import ArchDiagram.Proofs.Web.Below
import ArchDiagram.Proofs.Repository.Address
import ArchDiagram.Proofs.Provider.Count
import ArchDiagram.Proofs.Settings.Variable
import ArchDiagram.Proofs.Gate.Amount
import ArchDiagram.Proofs.Provider.Hearing
