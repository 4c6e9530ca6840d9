import SourceDiagnostics.Diagnostic.Basic
import SourceDiagnostics.Report.Plain

/-!
# Diagnostics as plain text

The reports of a diagnostic follow each other with an empty line in between.
-/

namespace SourceDiagnostics

/-- The reports as plain text, with no line feed at the end. -/
def Diagnostic.toText (diagnostic : Diagnostic) : String :=
  "\n\n".intercalate (diagnostic.reports.map Report.toText)

end SourceDiagnostics
