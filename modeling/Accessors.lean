import Accessors.Text.Case
import Accessors.Text.Number
import Accessors.Document
import Accessors.Edit
import Accessors.Options
import Accessors.Failure
import Accessors.Model
import Accessors.Accessor
import Accessors.Selection
import Accessors.Plan
import Accessors.Generate
import Accessors.Config
import Accessors.Diff.Lines
import Accessors.Diff.Unified
import Accessors.Prompt
import Accessors.Json.Printer
import Accessors.Json.Reader
import Accessors.Report
import Accessors.Run
import Accessors.Main
import Accessors.Proofs.Text.Bytes
import Accessors.Proofs.Document.Lines
import Accessors.Proofs.Edit.Batch
import Accessors.Proofs.Plan.Excerpt
import Accessors.Proofs.Plan.Inserted
import Accessors.Proofs.Plan.Layout
import Accessors.Proofs.Plan.Confinement
import Accessors.Proofs.Plan.Confluence
import Accessors.Proofs.Generate.Rerun
import Accessors.Proofs.Edit.Acceptance
import Accessors.Proofs.Generate.Outcome
import Accessors.Proofs.Server.TextEdits
import Accessors.Proofs.Server.Documents
import Accessors.Proofs.Generate.Course
import Accessors.Proofs.Text.Breaks
import Accessors.Proofs.Generate.LineEndings
import Accessors.Proofs.Server.Offers
import Accessors.Proofs.Run.Files
import Accessors.Proofs.Plan.Names
import Accessors.Proofs.Json.RoundTrip
import Accessors.Proofs.Report.Styles
import Accessors.Proofs.Report.Formats
import Accessors.Proofs.Plan.Brace
import Accessors.Proofs.Plan.Spacing
import Accessors.Proofs.Document.Positions
import Accessors.Proofs.Selection.Labels
import Accessors.Proofs.Selection.Numbers
import Accessors.Proofs.Generate.Candidates
import Accessors.Proofs.Plan.Coverage
import Accessors.Proofs.Syntax.Declarations
import Accessors.Proofs.Text.Decimal
import Accessors.Proofs.Text.Split
import Accessors.Proofs.Diff.Script
import Accessors.Proofs.Diff.Comparison
import Accessors.Proofs.Diff.Hunks
import Accessors.Proofs.Diff.Body
import Accessors.Proofs.Diff.PatchFile
import Accessors.Proofs.Diff.Rendering
import Accessors.Proofs.Edit.Narrowing
import Accessors.Proofs.Selection.Terminal
import Accessors.Proofs.Config.Search
import Accessors.Proofs.Config.Settings
import Accessors.Proofs.Generate.Extraction
