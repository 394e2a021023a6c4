import CheckDoc.Expr.Render
import CheckDoc.Link.Redirect
import CheckDoc.Main
import CheckDoc.Cli.Run
import CheckDoc.Proofs.Cli.Documents
import CheckDoc.Proofs.Cli.Agreement
import CheckDoc.Proofs.Cli.Directories
import CheckDoc.Proofs.Cli.Reports
import CheckDoc.Proofs.Graph.Cycles
import CheckDoc.Proofs.Document.Cycles
import CheckDoc.Proofs.Document.CycleOrder
import CheckDoc.Proofs.Document.Index
import CheckDoc.Proofs.Document.Schema
import CheckDoc.Proofs.Document.Strictness
import CheckDoc.Proofs.Document.Paths
import CheckDoc.Proofs.Lint.Rules
import CheckDoc.Proofs.Lint.Expectations
import CheckDoc.Proofs.Lint.WellFormed
import CheckDoc.Proofs.Lint.Selection
import CheckDoc.Proofs.Lint.Refusal
import CheckDoc.Proofs.Expr.RoundTrip
import CheckDoc.Proofs.Expr.Embedding
import CheckDoc.Proofs.Expr.Parentheses
import CheckDoc.Proofs.Link.Course
import CheckDoc.Proofs.Link.Report
import CheckDoc.Proofs.Link.Limits
import CheckDoc.Proofs.Link.Progress
import CheckDoc.Proofs.Link.Attempts
import CheckDoc.Proofs.Link.Endings
import CheckDoc.Proofs.Link.Truncation
import CheckDoc.Proofs.Link.Logs
import CheckDoc.Proofs.Lint.Links
import CheckDoc.Proofs.Expr.LongestMatch
import CheckDoc.Proofs.Expr.Layout
import CheckDoc.Proofs.Expr.References
import CheckDoc.Proofs.Expr.SegmentFaults
import CheckDoc.Proofs.Config.Ranges
import CheckDoc.Proofs.Config.Keys
import CheckDoc.Proofs.Link.Extraction
import CheckDoc.Proofs.Expr.Templates
import CheckDoc.Proofs.Graph.Loop
import CheckDoc.Proofs.Lint.Names
import CheckDoc.Proofs.Lint.Registry
