import SourceDiagnostics.Span

/-!
# Reports

A report states one finding about a text: a headline, the spans it is about, each with a
marker, and notes that stand by themselves. Reports are built by adding to the end, so the
order in which things are added is the order in which they are shown.
-/

namespace SourceDiagnostics

/-- How grave a finding is. -/
inductive Severity where
  | error
  | warning
  deriving DecidableEq, Repr

/-- The name of the severity. -/
def Severity.name : Severity → String
  | .error => "error"
  | .warning => "warning"

/-- What a marked span is to the finding. -/
inductive Role where
  /-- The place where the finding is. -/
  | primary
  /-- A place that helps to understand it. -/
  | secondary
  /-- A text to be replaced by the message. -/
  | suggestion
  deriving DecidableEq, Repr

/-- The name of the role. -/
def Role.name : Role → String
  | .primary => "primary"
  | .secondary => "secondary"
  | .suggestion => "suggestion"

/-- What is said at a span. -/
structure Marker where
  role : Role
  message : String
  deriving DecidableEq, Repr

/-- Whether the marker shows where the finding is. -/
def Marker.isPrimary (marker : Marker) : Bool := marker.role == .primary

/-- A span and what is said there. -/
structure MarkedSpan where
  span : Span
  marker : Marker
  deriving DecidableEq, Repr

/-- Whether a note explains or advises. -/
inductive NoteKind where
  | note
  | hint
  deriving DecidableEq, Repr

/-- The name of the kind of note. -/
def NoteKind.name : NoteKind → String
  | .note => "note"
  | .hint => "hint"

/-- What is said without a span. -/
structure Note where
  kind : NoteKind
  message : String
  deriving DecidableEq, Repr

/-- One finding. -/
structure Report where
  severity : Severity
  code : Option String
  headline : String
  annotations : List MarkedSpan
  notes : List Note
  deriving DecidableEq, Repr

namespace Report

/-- A report with a headline and nothing else. -/
def headed (severity : Severity) (code : Option String) (headline : String) : Report :=
  ⟨severity, code, headline, [], []⟩

/-- Marks a span, behind the ones marked so far. -/
def annotate (report : Report) (span : Span) (role : Role) (message : String) : Report :=
  { report with annotations := report.annotations ++ [⟨span, ⟨role, message⟩⟩] }

/-- Adds notes behind the others. -/
def addNotes (report : Report) (notes : List Note) : Report :=
  { report with notes := report.notes ++ notes }

/-- Adds a note behind the others. -/
def addNote (report : Report) (kind : NoteKind) (message : String) : Report :=
  report.addNotes [⟨kind, message⟩]

/-- The same finding with another severity. -/
def withSeverity (report : Report) (severity : Severity) : Report :=
  { report with severity }

/-- The same finding under another code. -/
def withCode (report : Report) (code : String) : Report :=
  { report with code := some code }

/-- Whether the finding is an error. -/
def isError (report : Report) : Bool := report.severity == .error

/-- The first marked span that shows where the finding is. -/
def primarySpan? (report : Report) : Option Span :=
  (report.annotations.find? (·.marker.isPrimary)).map MarkedSpan.span

@[simp] theorem annotations_annotate (report : Report) (span : Span) (role : Role)
    (message : String) :
    (report.annotate span role message).annotations =
      report.annotations ++ [⟨span, ⟨role, message⟩⟩] := rfl

@[simp] theorem withSeverity_withSeverity (report : Report) (first second : Severity) :
    (report.withSeverity first).withSeverity second = report.withSeverity second := rfl

end Report

end SourceDiagnostics
