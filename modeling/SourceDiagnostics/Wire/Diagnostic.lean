import SourceDiagnostics.Diagnostic.Basic
import SourceDiagnostics.Wire.Format

/-!
# Diagnostics as bytes

The binary formats of spans, markers, notes, reports and diagnostics. The parts of a value
stand in the order in which its type names them. The files of a diagnostic may be written in
any order; when they are read and a name occurs more than once, its last contents count.
-/

namespace SourceDiagnostics.Wire

open Format

/-- A place: its line, then its column. -/
def place : Format Place :=
  (pair word word).convert (fun (line, column) ↦ ⟨line, column⟩) fun p ↦ (p.line, p.column)

/-- A span: its start, its stop and its file. Whether it begins after it ends is not asked. -/
def span : Format Span :=
  (pair place (pair place text)).convert (fun (start, stop, file) ↦ ⟨start, stop, file⟩)
    fun s ↦ (s.start, s.stop, s.file)

/-- A severity by its number. -/
def severity : Format Severity := variant [.error, .warning]

/-- A role by its number. -/
def role : Format Role := variant [.primary, .secondary, .suggestion]

/-- A kind of note by its number. -/
def noteKind : Format NoteKind := variant [.note, .hint]

/-- A marker: its role, then its message. -/
def marker : Format Marker :=
  (pair role text).convert (fun (role, message) ↦ ⟨role, message⟩) fun m ↦ (m.role, m.message)

/-- A note: its kind, then its message. -/
def note : Format Note :=
  (pair noteKind text).convert (fun (kind, message) ↦ ⟨kind, message⟩)
    fun n ↦ (n.kind, n.message)

/-- A marked span: its span, then its marker. -/
def markedSpan : Format MarkedSpan :=
  (pair span marker).convert (fun (span, marker) ↦ ⟨span, marker⟩) fun a ↦ (a.span, a.marker)

/-- A report, from its severity to its notes. -/
def report : Format Report :=
  (pair severity (pair (option text) (pair text (pair (list markedSpan) (list note))))).convert
    (fun (severity, code, headline, annotations, notes) ↦
      ⟨severity, code, headline, annotations, notes⟩)
    fun r ↦ (r.severity, r.code, r.headline, r.annotations, r.notes)

/-- Reports, then entries of files, in which a name may occur more than once. -/
def entries : Format (List Report × List (String × String)) :=
  pair (list report) (list (pair text text))

/-- A diagnostic: its reports, then its files in the order of their names. -/
def diagnostic : Format Diagnostic :=
  entries.convert (fun (reports, files) ↦ ⟨reports, .ofList files⟩)
    fun d ↦ (d.reports, d.files.toList)

end SourceDiagnostics.Wire
