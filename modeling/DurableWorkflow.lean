import DurableWorkflow.History.Recorder
import DurableWorkflow.History.View
import DurableWorkflow.Polling.Single
import DurableWorkflow.Polling.Stopping
import DurableWorkflow.Scenario.Executor
import DurableWorkflow.Scenario.Handler
import DurableWorkflow.Scenario.Polling
import DurableWorkflow.Scenario.Service
import DurableWorkflow.Service.Codec
import DurableWorkflow.Service.InMemory
import DurableWorkflow.Worker.Pool
import DurableWorkflow.Proofs.Json.RoundTrip
import DurableWorkflow.Proofs.Retry.Control
import DurableWorkflow.Proofs.History.Log
import DurableWorkflow.Proofs.Decision.Plan
import DurableWorkflow.Proofs.Event.Reference
import DurableWorkflow.Proofs.History.Context
import DurableWorkflow.Proofs.History.Recorder
import DurableWorkflow.Proofs.Retry.Verdict
import DurableWorkflow.Proofs.Dispatch.Cycle
import DurableWorkflow.Proofs.Run.Basic
import DurableWorkflow.Proofs.Run.Coverage
import DurableWorkflow.Proofs.History.Soundness
import DurableWorkflow.Proofs.Worker.Delivery
import DurableWorkflow.Proofs.Run.Soundness
import DurableWorkflow.Proofs.Retry.Ledger
import DurableWorkflow.Proofs.Retry.Books
import DurableWorkflow.Proofs.Retry.Entries
import DurableWorkflow.Proofs.Run.Retries
import DurableWorkflow.Proofs.Decision.Close
import DurableWorkflow.Proofs.Decision.Naming
import DurableWorkflow.Proofs.Dispatch.Recovery
import DurableWorkflow.Proofs.Dispatch.Routing
import DurableWorkflow.Proofs.Dispatch.Contribution
import DurableWorkflow.Proofs.Dispatch.Close
import DurableWorkflow.Proofs.Dispatch.Naming
import DurableWorkflow.Proofs.Run.Continuation
import DurableWorkflow.Proofs.Run.Rejections
import DurableWorkflow.Proofs.Json.Leaves
import DurableWorkflow.Proofs.Json.Normal
import DurableWorkflow.Proofs.Json.Record
import DurableWorkflow.Proofs.Parts
import DurableWorkflow.Proofs.Decision.Codec
import DurableWorkflow.Proofs.Retry.Payloads
import DurableWorkflow.Proofs.Json.Children
import DurableWorkflow.Proofs.Event.Codec
import DurableWorkflow.Proofs.Polling.Run
import DurableWorkflow.Proofs.Worker.Answer
import DurableWorkflow.Proofs.Polling.World
import DurableWorkflow.Proofs.Polling.Passage
import DurableWorkflow.Proofs.Polling.Sequence
import DurableWorkflow.Proofs.Polling.Ledger
import DurableWorkflow.Proofs.Polling.Slots
import DurableWorkflow.Proofs.Polling.Settlement
import DurableWorkflow.Proofs.Polling.Cause
import DurableWorkflow.Proofs.Worker.Ending
import DurableWorkflow.Proofs.Worker.Report
import DurableWorkflow.Proofs.Worker.Leftover
import DurableWorkflow.Proofs.Worker.Supervision
import DurableWorkflow.Proofs.Polling.Course
import DurableWorkflow.Proofs.Worker.Course
import DurableWorkflow.Proofs.Polling.Single
import DurableWorkflow.Proofs.Polling.Lone
import DurableWorkflow.Proofs.Polling.Abreast
import DurableWorkflow.Proofs.Polling.Lockstep
import DurableWorkflow.Proofs.Worker.Repetition
import DurableWorkflow.Proofs.Worker.Paging
import DurableWorkflow.Proofs.History.Assembly
import DurableWorkflow.Proofs.History.Query
import DurableWorkflow.Proofs.Run.Provenance
import DurableWorkflow.Proofs.History.Replay
import DurableWorkflow.Proofs.History.Extraction
import DurableWorkflow.Proofs.History.Facet
import DurableWorkflow.Proofs.Dispatch.Registry
import DurableWorkflow.Proofs.Text.Natural
import DurableWorkflow.Proofs.Retry.Policy
import DurableWorkflow.Proofs.Registration
