import SourceDiagnostics.LineTable
import SourceDiagnostics.Span

/-!
# Sources

A source is a named text. It tells where in the file a byte offset lies.
-/

namespace SourceDiagnostics

/-- A text and the name of the file that holds it. -/
structure Source where
  file : String
  text : String
  deriving DecidableEq, Repr

namespace Source

/-- The line table of the text. -/
def lineTable (source : Source) : LineTable := .ofText source.text

/-- The location of a byte offset. -/
def locate (source : Source) (offset : Nat) : Except Fault Location := do
  let place ← source.lineTable.placeIn source.text offset
  return ⟨place, source.file⟩

end Source

end SourceDiagnostics
