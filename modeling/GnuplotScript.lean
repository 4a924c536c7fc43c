import GnuplotScript.Text.Blank
import GnuplotScript.Text.DecimalDigit
import GnuplotScript.Text.Inspect
import GnuplotScript.Text.Lines
import GnuplotScript.Text.Printable
import GnuplotScript.Text.Quoted
import GnuplotScript.Text.UpperCase
import GnuplotScript.Text.Surrogate
import GnuplotScript.Text.Utf8
import GnuplotScript.Decimal.Layout
import GnuplotScript.Datum.Basic
import GnuplotScript.Datum.Display
import GnuplotScript.Datum.Equality
import GnuplotScript.Datum.Writable
import GnuplotScript.Decimal.Integer
import GnuplotScript.Json.Document
import GnuplotScript.Fault
import GnuplotScript.Value.Tagged
import GnuplotScript.Form.Basic
import GnuplotScript.Form.Fragment
import GnuplotScript.Form.Output
import GnuplotScript.Form.Expression
import GnuplotScript.Script
import GnuplotScript.Engine.Execution
import GnuplotScript.Log
import GnuplotScript.Settings
import GnuplotScript.Service
import GnuplotScript.Main
import GnuplotScript.Proofs.Traversal
import GnuplotScript.Proofs.Datum.Reach
import GnuplotScript.Proofs.Datum.Writable
import GnuplotScript.Proofs.Value.Decoding
import GnuplotScript.Proofs.Form.Building
import GnuplotScript.Proofs.Form.Writable
import GnuplotScript.Proofs.Form.Grammar
import GnuplotScript.Proofs.Engine.Execution
import GnuplotScript.Proofs.Surfaces
import GnuplotScript.Proofs.Text.Inert
import GnuplotScript.Proofs.Text.Lines
import GnuplotScript.Proofs.Datum.Display
import GnuplotScript.Proofs.Value.Rendering
import GnuplotScript.Proofs.Value.Untagging
import GnuplotScript.Proofs.Script.Statement
import GnuplotScript.Proofs.Form.Statement
import GnuplotScript.Proofs.Script.Recovery
import GnuplotScript.Proofs.Form.Embedding
import GnuplotScript.Proofs.Engine.ReportedPath
import GnuplotScript.Proofs.Blame
import GnuplotScript.Proofs.CommandLine.Choices
import GnuplotScript.Proofs.CommandLine.ScriptFile
import GnuplotScript.Proofs.Script.Assembly
import GnuplotScript.Proofs.Text.Quoted
import GnuplotScript.Proofs.Value.Encoding
import GnuplotScript.Proofs.Form.Encoding
import GnuplotScript.Proofs.Value.Pieces
import GnuplotScript.Proofs.Value.Regrouping
import GnuplotScript.Proofs.Files.Path
import GnuplotScript.Proofs.Script.DataBlock
import GnuplotScript.Proofs.Engine.Binary
import GnuplotScript.Proofs.Form.Naming
import GnuplotScript.Proofs.Form.Plotting
import GnuplotScript.Proofs.Datum.Entries
import GnuplotScript.Proofs.Engine.Options
import GnuplotScript.Proofs.Script.Comment
import GnuplotScript.Proofs.Json.Quotation
