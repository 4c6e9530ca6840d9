import SourceDiagnostics.Report.Basic

/-!
# Payloads

A payload is an error of the parser's own kind that a failure carries. It has a text, it may
give hints for every report of its failure, and it may change the reports made for it.
-/

namespace SourceDiagnostics

/-- What a parser's own error has to tell to become a report. -/
class Payload (ε : Type) where
  /-- The text of the error. -/
  text : ε → String
  /-- Notes for the reports of the failure that carries the error. -/
  hints : ε → List Note := fun _ ↦ []
  /-- The reports to be made of the error, given those made by default and the failure's span. -/
  reshape : ε → List Report → Span → List Report := fun _ reports _ ↦ reports

/-- A text is an error that speaks for itself. -/
instance : Payload String where
  text := id

/-- A parser without errors of its own never carries a payload. -/
instance : Payload Empty where
  text := nofun

end SourceDiagnostics
