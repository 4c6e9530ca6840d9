import SourceDiagnostics.Source
import SourceDiagnostics.Text.Blank
import SourceDiagnostics.Text.Lines
import SourceDiagnostics.Text.Quoted
import SourceDiagnostics.Text.Utf8
import SourceDiagnostics.Diagnostic.Plain
import SourceDiagnostics.Failure.Conversion
import SourceDiagnostics.Json.Writer
import SourceDiagnostics.Numbers.Check
import SourceDiagnostics.Wire.Diagnostic
import SourceDiagnostics.Proofs.Checking
import SourceDiagnostics.Proofs.Json.Documents
import SourceDiagnostics.Proofs.Acceptance
import SourceDiagnostics.Proofs.Joining
import SourceDiagnostics.Proofs.Offsets
import SourceDiagnostics.Proofs.Reordering
import SourceDiagnostics.Proofs.Lines
import SourceDiagnostics.Proofs.Wire.Diagnostics
import SourceDiagnostics.Proofs.Combining
import SourceDiagnostics.Proofs.Histories
import SourceDiagnostics.Proofs.Json.SeveralDocuments
import SourceDiagnostics.Proofs.DefaultReports
import SourceDiagnostics.Proofs.OrderedSpans
import SourceDiagnostics.Proofs.LineNumbers
import SourceDiagnostics.Proofs.Severities
import SourceDiagnostics.Proofs.Suggestions
import SourceDiagnostics.Proofs.ForeignTables
import SourceDiagnostics.Proofs.Json.Layout
import SourceDiagnostics.Proofs.ReasonOrder
import SourceDiagnostics.Proofs.Mismatches
import SourceDiagnostics.Proofs.PlainTexts
import SourceDiagnostics.Proofs.LiteralTexts
import SourceDiagnostics.Proofs.ControlCharacters
import SourceDiagnostics.Proofs.Boundaries
import SourceDiagnostics.Proofs.Rounds
