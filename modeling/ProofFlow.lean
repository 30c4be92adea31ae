import ProofFlow.Kit.Flow
import ProofFlow.Kit.Validation
import ProofFlow.Kit.Selection
import ProofFlow.Kit.Matching
import ProofFlow.Kit.Interleaving
import ProofFlow.Kit.Dict
import ProofFlow.Kit.Chain
import ProofFlow.Kit.History
import ProofFlow.Python.Text
import ProofFlow.Python.Time
import ProofFlow.Python.Date
import ProofFlow.Python.Decimal
import ProofFlow.Python.Base64
import ProofFlow.Python.Json
import ProofFlow.Platform
import ProofFlow.Canonical
import ProofFlow.RoundTrip
import ProofFlow.Value
import ProofFlow.Models
import ProofFlow.Case.Machine
import ProofFlow.Case.Runs
import ProofFlow.Wire
import ProofFlow.Certificate.Contract
import ProofFlow.Certificate.Trust
import ProofFlow.Certificate.Ledger
import ProofFlow.Certificate.Verify
import ProofFlow.Certificate.Accept
import ProofFlow.Certificate.Noise
import ProofFlow.Certificate.Runs
import ProofFlow.Certificate.Total
import ProofFlow.Certificate.Intent
import ProofFlow.Receipt.Contract
import ProofFlow.Receipt.Index
import ProofFlow.Receipt.Verify
import ProofFlow.Receipt.Accept
import ProofFlow.Receipt.Authority
import ProofFlow.Receipt.Runs
import ProofFlow.Outcome.Contract
import ProofFlow.Outcome.Index
import ProofFlow.Outcome.Result
import ProofFlow.Outcome.Handoff
import ProofFlow.Outcome.Verify
import ProofFlow.Outcome.Observers
import ProofFlow.Outcome.Counting
import ProofFlow.Outcome.Reach
import ProofFlow.Outcome.Authority
import ProofFlow.Outcome.Verdict
import ProofFlow.Outcome.Record
import ProofFlow.Outcome.Total
import ProofFlow.Outcome.Runs
import ProofFlow.Recovery
import ProofFlow.Length
import ProofFlow.Tool.Store
import ProofFlow.Tool.Registry
import ProofFlow.Kit.Grouping
import ProofFlow.Evaluation.Contract
import ProofFlow.Evaluation.Classify
import ProofFlow.Evaluation.Schema
import ProofFlow.Python.Literal
import ProofFlow.DecimalText
import ProofFlow.Document
import ProofFlow.Kit.Rounding
import ProofFlow.Calculation.Context
import ProofFlow.Calculation.Service
import ProofFlow.Python.Zone
import ProofFlow.Artifacts
import ProofFlow.Seal
import ProofFlow.Calculation.Rules
import ProofFlow.Kit.Traversal
import ProofFlow.Calculation.Boundary
import ProofFlow.Python.IsoDate
import ProofFlow.Calculation.Calculate
import ProofFlow.Encoding
import ProofFlow.Calculation.Accepted
import ProofFlow.Calculation.Complete
import ProofFlow.Calculation.Amount
import ProofFlow.Calculation.Total
import ProofFlow.Certificate.Pae
import ProofFlow.Kit.Loop
import ProofFlow.Server.Reader
import ProofFlow.Server.Extensions
import ProofFlow.Server.Chunked
import ProofFlow.Python.JsonText
import ProofFlow.Server.Nesting
import ProofFlow.Audit.Conflicts
import ProofFlow.Audit.Decision
import ProofFlow.Evidence.Answers
import ProofFlow.Evidence.Objects
import ProofFlow.Demo.Cleanup
import ProofFlow.Demo.Initialize
import ProofFlow.Kit.Numeral
import ProofFlow.Server.ContentLength
import ProofFlow.Tool.Endpoints
import ProofFlow.Tool.Unanswered
import ProofFlow.Tool.Provenance
import ProofFlow.Tool.Posts
import ProofFlow.Evaluation.Aggregate
import ProofFlow.Evaluation.Identifiers
import ProofFlow.Evaluation.SchemaReads
import ProofFlow.Evaluation.Produced
import ProofFlow.Evaluation.Commit
import ProofFlow.Evaluation.Progress
