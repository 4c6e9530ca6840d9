import SourceDiagnostics.Report.Basic

/-!
# Reports as plain text

The first line holds the severity, the code in brackets and the headline. A line for each
marked span and then a line for each note follow, set in by two blanks. A message is shown as
it is, so one with line feeds in it takes up more lines.
-/

namespace SourceDiagnostics

/-- The arrow in front of a marked span; a secondary one has only room for it. -/
def Role.arrow : Role → String
  | .primary => "-->"
  | .secondary => "   "
  | .suggestion => "~~>"

/-- The line of a marked span. -/
def MarkedSpan.toText (marked : MarkedSpan) : String :=
  "  " ++ marked.marker.role.arrow ++ " " ++ marked.span.toText ++ ": " ++
    marked.marker.message

/-- The note after the name of its kind. -/
def Note.toText (note : Note) : String := note.kind.name ++ ": " ++ note.message

namespace Report

/-- The line that opens a report. -/
def headText (report : Report) : String :=
  match report.code with
  | some code => report.severity.name ++ "[" ++ code ++ "]: " ++ report.headline
  | none => report.severity.name ++ ": " ++ report.headline

/-- The lines of a report. -/
def textLines (report : Report) : List String :=
  report.headText :: report.annotations.map MarkedSpan.toText ++
    report.notes.map ("  = " ++ ·.toText)

/-- The report as plain text, with no line feed at its end. -/
def toText (report : Report) : String := "\n".intercalate report.textLines

end Report

end SourceDiagnostics
