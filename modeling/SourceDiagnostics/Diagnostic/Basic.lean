import Std.Data.ExtTreeMap
import SourceDiagnostics.Report.Basic

/-!
# Diagnostics

A diagnostic holds reports in the order in which they were made and the files that they
speak of. Two diagnostics are joined by appending: the reports of the second follow those of
the first, and where both have a file the second one's contents count.
-/

namespace SourceDiagnostics

/-- The contents of files by name. -/
abbrev Files := Std.ExtTreeMap String String

/-- Reports and the files that they speak of. -/
structure Diagnostic where
  reports : List Report
  files : Files
  deriving DecidableEq

namespace Diagnostic

/-- The diagnostic with neither reports nor files. -/
def empty : Diagnostic := ⟨[], ∅⟩

instance : EmptyCollection Diagnostic := ⟨empty⟩

instance : Inhabited Diagnostic := ⟨empty⟩

/-- The diagnostic with the given reports and no files. -/
def ofReports (reports : List Report) : Diagnostic := ⟨reports, ∅⟩

/-- Adds reports behind the others. -/
def addReports (diagnostic : Diagnostic) (reports : List Report) : Diagnostic :=
  { diagnostic with reports := diagnostic.reports ++ reports }

/-- Adds a report behind the others. -/
def addReport (diagnostic : Diagnostic) (report : Report) : Diagnostic :=
  diagnostic.addReports [report]

/-- Sets the contents of a file, whether or not it had any. -/
def addFile (diagnostic : Diagnostic) (name contents : String) : Diagnostic :=
  { diagnostic with files := diagnostic.files.insert name contents }

/-- Joins two diagnostics; the files of the second one win. -/
def append (first second : Diagnostic) : Diagnostic :=
  ⟨first.reports ++ second.reports, first.files ∪ second.files⟩

instance : Append Diagnostic := ⟨append⟩

/-- Makes every report an error. -/
def escalate (diagnostic : Diagnostic) : Diagnostic :=
  { diagnostic with reports := diagnostic.reports.map (·.withSeverity .error) }

/-- The contents of a file. -/
def file? (diagnostic : Diagnostic) (name : String) : Option String := diagnostic.files[name]?

/-- The names of the files, in ascending order. -/
def fileNames (diagnostic : Diagnostic) : List String := diagnostic.files.keys

/-- The number of reports. -/
def size (diagnostic : Diagnostic) : Nat := diagnostic.reports.length

/-- Whether there are no reports; there may be files all the same. -/
def isEmpty (diagnostic : Diagnostic) : Bool := diagnostic.reports.isEmpty

/-- The number of reports that are errors. -/
def errorCount (diagnostic : Diagnostic) : Nat := diagnostic.reports.countP Report.isError

/-- The number of reports that are warnings. -/
def warningCount (diagnostic : Diagnostic) : Nat := diagnostic.size - diagnostic.errorCount

/-- Whether some report is an error. -/
def hasErrors (diagnostic : Diagnostic) : Bool := diagnostic.reports.any Report.isError

@[simp] theorem reports_append (first second : Diagnostic) :
    (first ++ second).reports = first.reports ++ second.reports := rfl

/-- A file of a joined diagnostic is that of the second one, or else that of the first. -/
theorem file?_append (first second : Diagnostic) (name : String) :
    (first ++ second).file? name = (second.file? name).or (first.file? name) :=
  Std.ExtTreeMap.getElem?_union

@[simp] theorem reports_empty : (∅ : Diagnostic).reports = [] := rfl

@[simp] theorem reports_ofReports (reports : List Report) : (ofReports reports).reports = reports :=
  rfl

@[simp] theorem reports_addReports (diagnostic : Diagnostic) (reports : List Report) :
    (diagnostic.addReports reports).reports = diagnostic.reports ++ reports := rfl

@[simp] theorem reports_addReport (diagnostic : Diagnostic) (report : Report) :
    (diagnostic.addReport report).reports = diagnostic.reports ++ [report] := rfl

@[simp] theorem reports_addFile (diagnostic : Diagnostic) (name contents : String) :
    (diagnostic.addFile name contents).reports = diagnostic.reports := rfl

/-- Setting the contents of a file leaves all others alone. -/
theorem file?_addFile (diagnostic : Diagnostic) (name contents other : String) :
    (diagnostic.addFile name contents).file? other =
      if other = name then some contents else diagnostic.file? other := by
  simp only [file?, addFile, Std.ExtTreeMap.getElem?_insert, Std.compare_eq_iff_eq,
    eq_comm (a := other)]

@[simp] theorem reports_escalate (diagnostic : Diagnostic) :
    diagnostic.escalate.reports = diagnostic.reports.map (·.withSeverity .error) := rfl

end Diagnostic

end SourceDiagnostics
