import SourceDiagnostics.Json.Writer
import SourceDiagnostics.Proofs.Json.Reports

/-!
# Documents of reports

What a writer puts together stands for an array with an object for each report. Calls may hand
over reports one by one or many at once: only which reports come, and in which order, shows in the
text.
-/

namespace SourceDiagnostics.Json

/-- The reports that a call hands to a writer. -/
def Call.emitted : Call → List Report
  | .report one => [one]
  | .reports several => several
  | .diagnostic whole => whole.reports
  | _ => []

/-- Whether a call opens or closes a document. -/
def Call.isBoundary : Call → Bool
  | .start => true
  | .finish => true
  | _ => false

namespace Writer

/-- What a writer writes next depends only on whether it has written before, and so does whether
it has then. -/
theorem writeAll_congr {writer other : Writer} (h : writer.hasWritten = other.hasWritten)
    (reports : List Report) :
    (writer.writeAll reports).2 = (other.writeAll reports).2 ∧
      (writer.writeAll reports).1.hasWritten = (other.writeAll reports).1.hasWritten := by
  induction reports generalizing writer other with
  | nil => exact ⟨rfl, h⟩
  | cons report reports ih =>
    have hnext : (writer.write report).1.hasWritten = (other.write report).1.hasWritten := rfl
    obtain ⟨htext, hwritten⟩ := ih hnext
    refine ⟨?_, hwritten⟩
    simp only [writeAll, htext]
    rw [write, write, h]

/-- Once reports have been written, the writer remembers it. -/
theorem hasWritten_writeAll (writer : Writer) (reports : List Report) :
    (writer.writeAll reports).1.hasWritten = (writer.hasWritten || !reports.isEmpty) := by
  induction reports generalizing writer with
  | nil => simp [writeAll]
  | cons report reports ih => simp [writeAll, write, ih]

/-- A call inside a document writes the reports handed over. -/
theorem step_eq_writeAll (writer : Writer) {call : Call} (h : call.isBoundary = false) :
    (writer.step call).2 = (writer.writeAll call.emitted).2 ∧
      (writer.step call).1.hasWritten = (writer.writeAll call.emitted).1.hasWritten := by
  cases call with
  | start => cases h
  | finish => cases h
  | report report => exact ⟨(String.append_empty).symm, rfl⟩
  | reports reports => exact ⟨rfl, rfl⟩
  | diagnostic diagnostic => exact ⟨rfl, rfl⟩
  | flush => exact ⟨rfl, rfl⟩

/-- Calls inside a document write the reports handed over by all of them, one after the other. -/
theorem run_eq_writeAll {writer : Writer} {calls : List Call}
    (h : ∀ call ∈ calls, call.isBoundary = false) :
    (writer.run calls).2 = (writer.writeAll (calls.flatMap Call.emitted)).2 ∧
      (writer.run calls).1.hasWritten =
        (writer.writeAll (calls.flatMap Call.emitted)).1.hasWritten := by
  induction calls generalizing writer with
  | nil => exact ⟨rfl, rfl⟩
  | cons call calls ih =>
    obtain ⟨htext, hwritten⟩ := step_eq_writeAll writer (h call List.mem_cons_self)
    obtain ⟨hothers, hafter⟩ := ih fun other hm ↦ h other (List.mem_cons_of_mem call hm)
    obtain ⟨hcongr, hcongr'⟩ := writeAll_congr hwritten (calls.flatMap Call.emitted)
    rw [List.flatMap_cons, writeAll_append]
    simp only [run]
    exact ⟨by rw [htext, hothers, hcongr], hafter.trans hcongr'⟩

/-- A writer puts commas between reports, and one in front if it has written before. -/
theorem writeAll_eq_intercalate (writer : Writer) {reports : List Report} (hne : reports ≠ []) :
    (writer.writeAll reports).2 =
      (if writer.hasWritten then ",\n" else "") ++ ",\n".intercalate (reports.map ofReport) := by
  induction reports generalizing writer with
  | nil => exact absurd rfl hne
  | cons report reports ih =>
    simp only [writeAll, write]
    by_cases hothers : reports = []
    · subst hothers
      rw [List.map_singleton, String.intercalate_singleton, writeAll, String.append_empty]
    · rw [ih _ hothers, if_pos rfl, List.map_cons,
        String.intercalate_cons_of_ne_nil (by simpa using hothers)]
      simp only [String.append_assoc]

/-- A fresh writer puts commas between reports. -/
theorem writeAll_fresh (reports : List Report) :
    (({} : Writer).writeAll reports).2 = ",\n".intercalate (reports.map ofReport) := by
  by_cases hne : reports = []
  · subst hne
    rw [writeAll, List.map_nil, String.intercalate_nil]
  · rw [writeAll_eq_intercalate _ hne, if_neg Bool.false_ne_true, String.empty_append]

/-- A document is what is written between its brackets. -/
theorem run_document {calls : List Call} (h : ∀ call ∈ calls, call.isBoundary = false) :
    (({} : Writer).run (.start :: calls ++ [.finish])).2 =
      "[\n" ++ (",\n".intercalate ((calls.flatMap Call.emitted).map ofReport) ++ "\n]\n") := by
  rw [run_append]
  simp only [run, step, String.append_empty]
  rw [(run_eq_writeAll h).1, writeAll_fresh, String.append_assoc]

end Writer

/-- Reports between the brackets of a document, with commas between them, stand for the array of
them and for nothing else. -/
theorem document_intercalate_iff (reports : List Report) {value : Value} :
    Document ("[\n" ++ (",\n".intercalate (reports.map ofReport) ++ "\n]\n")) value ↔
      value = .array (reports.map Value.ofReport) := by
  have hforall : List.Forall₂ Spells (reports.map ofReport) (reports.map Value.ofReport) :=
    forall₂_spells_map spells_ofReport reports
  have hclose : skipBlanks "\n]\n".toList = [']', '\n'] := rfl
  have hread := readsValue_array hforall marked_bracket hclose []
  rw [List.append_nil, List.append_nil] at hread
  have hdocument : Document ("[\n" ++ (",\n".intercalate (reports.map ofReport) ++ "\n]\n"))
      (.array (reports.map Value.ofReport)) := by
    rw [Document, String.toList_append, String.toList_append]
    exact ⟨['\n'], hread, rfl⟩
  constructor
  · intro hvalue
    exact hvalue.unique hdocument
  · rintro rfl
    exact hdocument

/-- What a fresh writer writes from opening a document to closing it is a document for the array of
the reports handed over in between, and for nothing else. How calls group the reports makes no
difference to the text. -/
theorem run_document_iff {calls : List Call} (h : ∀ call ∈ calls, call.isBoundary = false) :
    (∀ value, Document (({} : Writer).run (.start :: calls ++ [.finish])).2 value ↔
      value = .array ((calls.flatMap Call.emitted).map Value.ofReport)) ∧
    (({} : Writer).run (.start :: calls ++ [.finish])).2 =
      (({} : Writer).run [.start, .reports (calls.flatMap Call.emitted), .finish]).2 := by
  constructor
  · intro value
    rw [Writer.run_document h]
    exact document_intercalate_iff _
  · have hone : ∀ call ∈ [Call.reports (calls.flatMap Call.emitted)], call.isBoundary = false := by
      simp [Call.isBoundary]
    have htext := Writer.run_document hone
    rw [List.flatMap_singleton] at htext
    exact (Writer.run_document h).trans htext.symm

/-- Two reports that come in different calls, with a flush between them. The first one marks a span
in each role and has a note of each kind. -/
theorem run_document_iff_two :
    ∃ calls : List Call,
      calls = [.report ⟨.error, some "E1", "\"a\" \\ \u0007",
          [⟨⟨⟨1, 2⟩, ⟨1, 5⟩, "a.txt"⟩, ⟨.primary, "here"⟩⟩,
            ⟨⟨⟨3, 1⟩, ⟨4294967295, 1⟩, "b\\c"⟩, ⟨.secondary, ""⟩⟩,
            ⟨⟨⟨1, 2⟩, ⟨1, 3⟩, "a.txt"⟩, ⟨.suggestion, "\t"⟩⟩],
          [⟨.hint, "é\n"⟩, ⟨.note, "n"⟩]⟩,
        .flush, .reports [], .diagnostic (.ofReports [.headed .warning none ""])] ∧
      (∀ call ∈ calls, call.isBoundary = false) ∧
      Document (({} : Writer).run (.start :: calls ++ [.finish])).2
        (.array [
          .object [("severity", .string "error"), ("code", .string "E1"),
            ("headline", .string "\"a\" \\ \u0007"),
            ("annotations", .array [
              .object [("kind", .string "primary"), ("message", .string "here"),
                ("file", .string "a.txt"),
                ("begin", .object [("line", .number 1), ("column", .number 2)]),
                ("end", .object [("line", .number 1), ("column", .number 5)])],
              .object [("kind", .string "secondary"), ("message", .string ""),
                ("file", .string "b\\c"),
                ("begin", .object [("line", .number 3), ("column", .number 1)]),
                ("end", .object [("line", .number 4294967295), ("column", .number 1)])],
              .object [("kind", .string "suggestion"), ("message", .string "\t"),
                ("file", .string "a.txt"),
                ("begin", .object [("line", .number 1), ("column", .number 2)]),
                ("end", .object [("line", .number 1), ("column", .number 3)])]]),
            ("notes", .array [
              .object [("kind", .string "hint"), ("message", .string "é\n")],
              .object [("kind", .string "note"), ("message", .string "n")]])],
          .object [("severity", .string "warning"), ("code", .null), ("headline", .string ""),
            ("annotations", .array []), ("notes", .array [])]]) := by
  refine ⟨_, rfl, ?inside, ((run_document_iff ?inside).1 _).mpr rfl⟩
  simp [Call.isBoundary]

end SourceDiagnostics.Json
