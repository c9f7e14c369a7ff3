import WorkflowCompiler.Text.Blank
import WorkflowCompiler.Text.Alphanumeric
import WorkflowCompiler.Text.Quoted
import WorkflowCompiler.Text.Utf8
import WorkflowCompiler.Text.Base64
import WorkflowCompiler.Decimal.Shortest
import WorkflowCompiler.Json.Writer
import WorkflowCompiler.Json.Reader
import WorkflowCompiler.Json.Form
import WorkflowCompiler.Files.Tree
import WorkflowCompiler.Workflow.Load
import WorkflowCompiler.Workflow.Parameters
import WorkflowCompiler.Workflow.TableLayout
import WorkflowCompiler.Script.Literal
import WorkflowCompiler.Script.BuildError
import WorkflowCompiler.Script.Templates
import WorkflowCompiler.Script.Prelude
import WorkflowCompiler.Script.Helpers
import WorkflowCompiler.Script.Telemetry
import WorkflowCompiler.Script.Artifact
import WorkflowCompiler.Settings.Logging
import WorkflowCompiler.Publish.Flow
import WorkflowCompiler.Publish.Terminal
import WorkflowCompiler.Publish.Client
import WorkflowCompiler.Run.LocalRun
import WorkflowCompiler.CommandLine.Program
import WorkflowCompiler.Machine.Shell.Command
import WorkflowCompiler.Machine.Shell.Arithmetic
import WorkflowCompiler.Machine.Shell.Escape
import WorkflowCompiler.Machine.Shell.Utility
import WorkflowCompiler.Machine.Shell.Run
import WorkflowCompiler.Machine.Program
import WorkflowCompiler.Main
import WorkflowCompiler.Proofs.Workflow.Load
import WorkflowCompiler.Proofs.Script.Literal
import WorkflowCompiler.Proofs.Text.Base64
import WorkflowCompiler.Proofs.Json.RoundTrip
import WorkflowCompiler.Proofs.Json.Form
import WorkflowCompiler.Proofs.Json.Lookup
import WorkflowCompiler.Proofs.Publish.Opaque
import WorkflowCompiler.Proofs.Publish.Dialogue
import WorkflowCompiler.Proofs.Publish.Flow
import WorkflowCompiler.Proofs.Publish.Delivery
import WorkflowCompiler.Proofs.Publish.Consent
import WorkflowCompiler.Proofs.Json.Printable
import WorkflowCompiler.Proofs.Script.Lines
import WorkflowCompiler.Proofs.Script.Fixed
import WorkflowCompiler.Proofs.Workflow.Accepted
import WorkflowCompiler.Proofs.Script.Compiled
import WorkflowCompiler.Proofs.Script.Structure
import WorkflowCompiler.Proofs.Script.Height
import WorkflowCompiler.Proofs.Script.Heads
import WorkflowCompiler.Proofs.Script.Located
import WorkflowCompiler.Proofs.Script.Reading
import WorkflowCompiler.Proofs.Script.Recompiled
import WorkflowCompiler.Proofs.Script.Updated
import WorkflowCompiler.Proofs.Script.Rendered
import WorkflowCompiler.Proofs.Script.Modes
import WorkflowCompiler.Proofs.Script.Wired
import WorkflowCompiler.Proofs.Publish.Agreement
import WorkflowCompiler.Proofs.Publish.Failing
import WorkflowCompiler.Proofs.Publish.Faithful
import WorkflowCompiler.Proofs.Publish.Decision
import WorkflowCompiler.Proofs.Publish.Traffic
import WorkflowCompiler.Proofs.Run.EveryLine
import WorkflowCompiler.Proofs.Run.Handover
import WorkflowCompiler.Proofs.Run.Lines
import WorkflowCompiler.Proofs.Run.Relay
import WorkflowCompiler.Proofs.Run.Chunks
import WorkflowCompiler.Proofs.Run.Scratch
import WorkflowCompiler.Proofs.Run.RunList
import WorkflowCompiler.Proofs.Dependency.Ends
import WorkflowCompiler.Proofs.Dependency.Regrouping
import WorkflowCompiler.Proofs.Dependency.Represented
import WorkflowCompiler.Proofs.Dependency.Store
import WorkflowCompiler.Proofs.Dependency.Evaluation
import WorkflowCompiler.Proofs.Script.Spliced
import WorkflowCompiler.Proofs.Script.WiringGraph
import WorkflowCompiler.Proofs.Script.OwnNames
import WorkflowCompiler.Proofs.Json.Edit
import WorkflowCompiler.Proofs.Json.Record
import WorkflowCompiler.Proofs.Workflow.Preserved
import WorkflowCompiler.Proofs.Workflow.Violations
import WorkflowCompiler.Proofs.Workflow.CanonicalDate
import WorkflowCompiler.Proofs.Workflow.Reports
import WorkflowCompiler.Proofs.Publish.Terminal
import WorkflowCompiler.Proofs.Workflow.TableLayout
import WorkflowCompiler.Proofs.Files.Place
import WorkflowCompiler.Proofs.Script.Partitioning
