import SourceDiagnostics.Proofs.Json.Documents

/-!
# Several documents of one writer

A writer does not forget at the start of a document that it has written reports before. Its
documents are those of fresh writers as long as none before them had a report, and so are those
without reports at any time. In every other document a comma comes right behind the opening
bracket, so that it stands for nothing.
-/

namespace SourceDiagnostics.Json

/-- The calls that write reports as one document. -/
def Call.document (reports : List Report) : List Call := [.start, .reports reports, .finish]

/-- The document of reports that a writer writes after documents of `earlier` ones. -/
def Writer.documentAfter (earlier : List (List Report)) (reports : List Report) : String :=
  ((({} : Writer).run (earlier.flatMap Call.document)).1.run (Call.document reports)).2

namespace Writer

/-! ### What a writer remembers -/

/-- Opening and closing a document changes nothing that the writer remembers. -/
theorem hasWritten_run_document (writer : Writer) (reports : List Report) :
    (writer.run (Call.document reports)).1.hasWritten = (writer.hasWritten || !reports.isEmpty) :=
  hasWritten_writeAll writer reports

/-- A writer remembers whether any of its documents had reports. -/
theorem hasWritten_run_documents (writer : Writer) (documents : List (List Report)) :
    (writer.run (documents.flatMap Call.document)).1.hasWritten =
      (writer.hasWritten || documents.any (!·.isEmpty)) := by
  induction documents generalizing writer with
  | nil => simp [run]
  | cons reports documents ih =>
    rw [List.flatMap_cons, run_append, ih, hasWritten_run_document, List.any_cons, Bool.or_assoc]

/-! ### What a writer writes -/

theorem text_run_document (writer : Writer) (reports : List Report) :
    (writer.run (Call.document reports)).2 =
      "[\n" ++ ((writer.writeAll reports).2 ++ "\n]\n") := by
  simp only [Call.document, run, step, String.append_empty]

/-- What is written behind the opening bracket, with a comma in front if there are reports and there
have been some before. -/
theorem text_run_document_eq (writer : Writer) (reports : List Report) :
    (writer.run (Call.document reports)).2 =
      "[\n" ++ ((if reports = [] ∨ writer.hasWritten = false then "" else ",\n") ++
        (",\n".intercalate (reports.map ofReport) ++ "\n]\n")) := by
  rw [text_run_document]
  by_cases hne : reports = []
  · rw [if_pos (.inl hne), hne]
    rfl
  · rw [writeAll_eq_intercalate writer hne]
    cases writer.hasWritten <;> simp [hne, String.append_assoc]

/-- A document after others has a comma more than that of a fresh writer if both it and one of the
others have reports. -/
theorem documentAfter_eq (earlier : List (List Report)) (reports : List Report) :
    documentAfter earlier reports =
      "[\n" ++ ((if reports = [] ∨ ∀ others ∈ earlier, others = [] then "" else ",\n") ++
        (",\n".intercalate (reports.map ofReport) ++ "\n]\n")) := by
  have hclean : (({} : Writer).run (earlier.flatMap Call.document)).1.hasWritten = false ↔
      ∀ others ∈ earlier, others = [] := by
    simp [hasWritten_run_documents]
  rw [documentAfter, text_run_document_eq]
  simp only [hclean]

end Writer

private theorem not_document_comma (text : String) (value : Value) :
    ¬Document ("[\n" ++ (",\n" ++ text)) value := by
  have hbracket : skipBlanks ("[\n" ++ (",\n" ++ text)).toList =
      '[' :: '\n' :: ',' :: '\n' :: text.toList := by
    rw [String.toList_append, String.toList_append]
    rfl
  exact not_document_of_comma hbracket rfl

/-- A document that a writer writes after others is that of a fresh writer, but for a comma right
behind the opening bracket if both it and one of the others have reports. It stands for something
exactly if there is no such comma, and then for the array of its reports. -/
theorem documentAfter_iff (earlier : List (List Report)) (reports : List Report) :
    (∃ rest, Writer.documentAfter [] reports = "[\n" ++ rest ∧
      Writer.documentAfter earlier reports = "[\n" ++
        ((if reports = [] ∨ ∀ others ∈ earlier, others = [] then "" else ",\n") ++ rest)) ∧
    ∀ value, Document (Writer.documentAfter earlier reports) value ↔
      (reports = [] ∨ ∀ others ∈ earlier, others = []) ∧
        value = .array (reports.map Value.ofReport) := by
  constructor
  · refine ⟨_, ?_, Writer.documentAfter_eq earlier reports⟩
    rw [Writer.documentAfter_eq, if_pos (by simp), String.empty_append]
  · intro value
    rw [Writer.documentAfter_eq]
    by_cases hclean : reports = [] ∨ ∀ others ∈ earlier, others = []
    · rw [if_pos hclean, String.empty_append, document_intercalate_iff, and_iff_right hclean]
    · rw [if_neg hclean]
      exact iff_of_false (not_document_comma _ value) fun h ↦ hclean h.1

/-- A document with a report is spoiled by another one before it: it is neither that of a fresh
writer nor does it stand for anything. -/
theorem documentAfter_same_report :
    Writer.documentAfter [[.headed .error none "e"]] [.headed .error none "e"] ≠
        Writer.documentAfter [] [.headed .error none "e"] ∧
      ∀ value, ¬Document
        (Writer.documentAfter [[.headed .error none "e"]] [.headed .error none "e"]) value := by
  have hspoiled (value : Value) : ¬Document
      (Writer.documentAfter [[.headed .error none "e"]] [.headed .error none "e"]) value := by
    rw [Writer.documentAfter_eq, if_neg (by simp)]
    exact not_document_comma _ value
  have hfresh : Document (Writer.documentAfter [] [.headed .error none "e"])
      (.array [.ofReport (.headed .error none "e")]) := by
    rw [Writer.documentAfter_eq, if_pos (by simp), String.empty_append, document_intercalate_iff]
    rfl
  exact ⟨fun hsame ↦ hspoiled _ (hsame ▸ hfresh), hspoiled⟩

end SourceDiagnostics.Json
