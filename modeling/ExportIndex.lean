import ExportIndex.Decimal.Fixed
import ExportIndex.Extraction
import ExportIndex.Metrics.Json
import ExportIndex.Proofs.Arena.WalkOrder
import ExportIndex.Python.Programs
import ExportIndex.Scan
import ExportIndex.Settings.Json
import ExportIndex.Proofs.Extraction.Reported
import ExportIndex.Proofs.Scan.Account
import ExportIndex.Proofs.Scan.Enclosing
import ExportIndex.Proofs.Scan.Mirror
import ExportIndex.Proofs.Arena.Layout
import ExportIndex.Proofs.Extraction.Contribution
import ExportIndex.Proofs.Extraction.CommonModule
import ExportIndex.Proofs.JavaScript.Acceptance
import ExportIndex.Proofs.JavaScript.Ladder
import ExportIndex.Proofs.Python.Syntax
import ExportIndex.Proofs.Python.Agreement
import ExportIndex.Arena.Cursor
import ExportIndex.Proofs.Arena.Copy
import ExportIndex.Proofs.Arena.Address
import ExportIndex.Proofs.Extraction.TypedElements
import ExportIndex.Proofs.Component.Report
import ExportIndex.Proofs.Scan.Modes
import ExportIndex.Proofs.Arena.Content
import ExportIndex.Proofs.Component.Rearrangement
import ExportIndex.Proofs.Json.Printed
import ExportIndex.Proofs.Json.Restated
import ExportIndex.Proofs.Json.RoundTrip
import ExportIndex.Proofs.Component.Exported
import ExportIndex.Proofs.Directory.Text
import ExportIndex.Proofs.Directory.Insertion
import ExportIndex.Proofs.TypeScript.Members
import ExportIndex.Proofs.Metrics.Merging
import ExportIndex.Proofs.Metrics.Written
import ExportIndex.Proofs.Extraction.Alike
import ExportIndex.Proofs.Python.Alike
import ExportIndex.Proofs.Arena.Joined
import ExportIndex.Proofs.Extraction.Joined
import ExportIndex.Proofs.Arena.History
import ExportIndex.Proofs.JavaScript.Scope
import ExportIndex.Proofs.JavaScript.Erasure.Statements
import ExportIndex.Proofs.Arena.Search
import ExportIndex.Proofs.JavaScript.Rejection
import ExportIndex.Proofs.Arena.Depth
import ExportIndex.Proofs.Component.Rendering
import ExportIndex.Proofs.Arena.Parallel
import ExportIndex.Proofs.TypeScript.Depth
import ExportIndex.Proofs.TypeScript.Grouping
import ExportIndex.Proofs.JavaScript.Given
import ExportIndex.Proofs.Record.Merging
import ExportIndex.Proofs.TypeScript.Quoted
import ExportIndex.Proofs.TypeScript.Escapes
import ExportIndex.Proofs.Python.Output
import ExportIndex.Proofs.Extraction.Below
import ExportIndex.Proofs.Extraction.Outcome
import ExportIndex.Proofs.Text.Encoding
import ExportIndex.Proofs.Scan.Size
import ExportIndex.Proofs.TypeScript.TypeTree
import ExportIndex.Proofs.TypeScript.SameType
import ExportIndex.Proofs.TypeScript.Reading
import ExportIndex.Proofs.TypeScript.TreeReading
import ExportIndex.Proofs.TypeScript.Described
import ExportIndex.Proofs.Python.Service
import ExportIndex.Proofs.Extraction.Dispatch
import ExportIndex.Proofs.JavaScript.Anonymous
