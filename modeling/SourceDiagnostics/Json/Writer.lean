import SourceDiagnostics.Diagnostic.Basic
import SourceDiagnostics.Json.Report

/-!
# Writing JSON documents

A writer puts reports into an array as they come. It answers each call with the text to be
written and remembers whether a report has been written before, as then a comma goes in front
of the next one. Opening a document does not make it forget, so only the first document of a
writer begins without a comma.

The sink that the text goes to is assumed to take everything. Writing and flushing may fail, but a
writer discards their results: a failure neither stops it nor changes what it remembers, and only
the sink would lack some of the text.
-/

namespace SourceDiagnostics.Json

/-- What a writer remembers. -/
structure Writer where
  /-- Whether a report has been written. -/
  hasWritten : Bool := false
  /-- How often the text was passed on to where it goes. -/
  flushes : Nat := 0
  deriving DecidableEq, Repr

/-- What a writer can be asked to do. -/
inductive Call where
  /-- Open the array of a document. -/
  | start
  /-- Close the array of a document. -/
  | finish
  | report (report : Report)
  | reports (reports : List Report)
  /-- Write the reports of a diagnostic; its files are left out. -/
  | diagnostic (diagnostic : Diagnostic)
  /-- Pass the text on to where it goes. -/
  | flush
  deriving DecidableEq

namespace Writer

/-- Writes a report as the next element. -/
def write (writer : Writer) (report : Report) : Writer × String :=
  ({ writer with hasWritten := true },
    (if writer.hasWritten then ",\n" else "") ++ ofReport report)

/-- Writes reports one after the other. -/
def writeAll (writer : Writer) : List Report → Writer × String
  | [] => (writer, "")
  | report :: reports =>
    let (writer, text) := writer.write report
    let (writer, others) := writer.writeAll reports
    (writer, text ++ others)

/-- Carries out a call and answers with the text to be written. -/
def step (writer : Writer) : Call → Writer × String
  | .start => (writer, "[\n")
  | .finish => (writer, "\n]\n")
  | .report report => writer.write report
  | .reports reports => writer.writeAll reports
  | .diagnostic diagnostic => writer.writeAll diagnostic.reports
  | .flush => ({ writer with flushes := writer.flushes + 1 }, "")

/-- Carries out calls one after the other. -/
def run (writer : Writer) : List Call → Writer × String
  | [] => (writer, "")
  | call :: calls =>
    let (writer, text) := writer.step call
    let (writer, others) := writer.run calls
    (writer, text ++ others)

theorem writeAll_append (writer : Writer) (first second : List Report) :
    writer.writeAll (first ++ second) =
      (((writer.writeAll first).1.writeAll second).1,
        (writer.writeAll first).2 ++ ((writer.writeAll first).1.writeAll second).2) := by
  induction first generalizing writer with
  | nil => simp [writeAll]
  | cons report reports ih => simp [writeAll, ih, String.append_assoc]

theorem run_append (writer : Writer) (first second : List Call) :
    writer.run (first ++ second) =
      (((writer.run first).1.run second).1,
        (writer.run first).2 ++ ((writer.run first).1.run second).2) := by
  induction first generalizing writer with
  | nil => simp [run]
  | cons call calls ih => simp [run, ih, String.append_assoc]

end Writer

/-- The document that a fresh writer makes of a diagnostic. -/
def document (diagnostic : Diagnostic) : String :=
  (({} : Writer).run [.start, .diagnostic diagnostic, .finish]).2

end SourceDiagnostics.Json
