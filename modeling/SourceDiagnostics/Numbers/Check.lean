import SourceDiagnostics.Failure.Conversion
import SourceDiagnostics.Numbers.Reading
import SourceDiagnostics.Source

/-!
# Checking a text of numbers

A source is accepted with its numbers when every word of it is one. Otherwise it is rejected
with a report for each failure, and the source goes along under its file name.
-/

namespace SourceDiagnostics.Numbers

/-- What comes of checking a source. -/
inductive Verdict where
  | accepted (numbers : List UInt64)
  | rejected (diagnostic : Diagnostic)
  deriving DecidableEq

/-- Checks a source; every report of a rejection has the given headline. -/
def check (source : Source) (headline : String) : Except Fault Verdict :=
  let reading := read source.text
  if reading.succeeded then .ok (.accepted reading.numbers)
  else do
    let heading : Heading := { headline, code := some Code.numberExpected.name }
    let diagnostic ← Diagnostic.ofErrors heading source.locate reading.failures
    return .rejected (diagnostic.addFile source.file source.text)

end SourceDiagnostics.Numbers
