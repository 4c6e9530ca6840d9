import SourceDiagnostics.Proofs.Conversion
import SourceDiagnostics.Proofs.Files

/-!
# Diagnostics and their histories

A diagnostic is built by operations, one after the other. What it holds in the end can be read off
the history of these operations from the latest one back to the earliest: which reports have joined
since it last started anew, which of them an operation that came later has made errors, and which
contents a file was last given.
-/

namespace SourceDiagnostics.Diagnostic

/-- What can be done to a diagnostic. -/
inductive Operation where
  /-- Start anew without reports and files. -/
  | clear
  /-- Start anew from reports. -/
  | collect (reports : List Report)
  | addReport (report : Report)
  | addReports (reports : List Report)
  | addFile (name contents : String)
  /-- Join another diagnostic, which comes behind. -/
  | append (other : Diagnostic)
  /-- Join another diagnostic, which comes in front. -/
  | appendTo (other : Diagnostic)
  /-- Join a copy. -/
  | appendSelf
  /-- Make every report an error. -/
  | escalate
  deriving DecidableEq

/-- Carries out an operation. -/
def Operation.apply (diagnostic : Diagnostic) : Operation → Diagnostic
  | .clear => ∅
  | .collect reports => .ofReports reports
  | .addReport report => diagnostic.addReport report
  | .addReports reports => diagnostic.addReports reports
  | .addFile name contents => diagnostic.addFile name contents
  | .append other => diagnostic ++ other
  | .appendTo other => other ++ diagnostic
  | .appendSelf => diagnostic ++ diagnostic
  | .escalate => diagnostic.escalate

/-- What a history of operations makes of a new diagnostic. -/
def after (history : List Operation) : Diagnostic := history.foldl Operation.apply ∅

/-! ### What a history tells -/

/-- A report as it is after operations: an error if one of them made errors of all reports, and
otherwise as it was. -/
def leftBy (later : List Operation) (report : Report) : Report :=
  if .escalate ∈ later then { report with severity := .error } else report

/-- The reports that operations, the latest of which comes first, have brought together. Each of
them is as the operations behind the one that brought it, and then the `later` ones, leave it. -/
def reportsOf (later : List Operation) : List Operation → List Report
  | [] => []
  | operation :: earlier =>
    let before := reportsOf (operation :: later) earlier
    match operation with
    | .clear => []
    | .collect reports => reports.map (leftBy later)
    | .addReport report => before ++ [leftBy later report]
    | .addReports reports => before ++ reports.map (leftBy later)
    | .addFile .. => before
    | .append other => before ++ other.reports.map (leftBy later)
    | .appendTo other => other.reports.map (leftBy later) ++ before
    | .appendSelf => before ++ before
    | .escalate => before

/-- The contents that operations, the latest of which comes first, have given to files, the latest
first. Of two joined diagnostics the one behind gives its contents later. -/
def registrations : List Operation → List (String × String)
  | [] => []
  | operation :: earlier =>
    let before := registrations earlier
    match operation with
    | .clear => []
    | .collect _ => []
    | .addReport _ => before
    | .addReports _ => before
    | .addFile name contents => (name, contents) :: before
    | .append other => other.files.toList ++ before
    | .appendTo other => before ++ other.files.toList
    | .appendSelf => before ++ before
    | .escalate => before

/-- A diagnostic holds what a history tells, and the questions about it are answered by that. -/
structure AgreesWith (diagnostic : Diagnostic) (history : List Operation) : Prop where
  /-- The reports since the last new start, in their places, are as later operations left them. -/
  reports : diagnostic.reports = reportsOf [] history.reverse
  /-- A file has the contents that it was last given. -/
  file? : ∀ name, diagnostic.file? name = (registrations history.reverse).lookup name
  /-- The names of the files are those that were given contents. -/
  mem_fileNames : ∀ name,
    name ∈ diagnostic.fileNames ↔ ∃ contents, (name, contents) ∈ registrations history.reverse
  pairwise_fileNames : diagnostic.fileNames.Pairwise fun a b ↦
    Text.utf8 a.toList < Text.utf8 b.toList
  errorCount : diagnostic.errorCount = diagnostic.reports.countP (·.severity = .error)
  warningCount : diagnostic.warningCount = diagnostic.reports.countP (·.severity = .warning)
  size : diagnostic.errorCount + diagnostic.warningCount = diagnostic.size ∧
    diagnostic.size = diagnostic.reports.length
  hasErrors : diagnostic.hasErrors = true ↔ 0 < diagnostic.errorCount
  isEmpty : diagnostic.isEmpty = true ↔ diagnostic.size = 0

/-! ### Reports -/

theorem leftBy_nil (report : Report) : leftBy [] report = report := rfl

/-- Only making errors of all reports changes how they are left. -/
theorem leftBy_cons {operation : Operation} (h : operation ≠ .escalate) (later : List Operation) :
    leftBy (operation :: later) = leftBy later := by
  funext report
  have hmem : .escalate ∈ operation :: later ↔ .escalate ∈ later := by
    rw [List.mem_cons, or_iff_right h.symm]
  simp only [leftBy, hmem]

/-- Making an error of a report at once, or along with all others, comes to the same. -/
theorem leftBy_withSeverity (later : List Operation) (report : Report) :
    leftBy later (report.withSeverity .error) = leftBy (.escalate :: later) report := by
  rw [leftBy, leftBy, if_pos List.mem_cons_self]
  split <;> rfl

/-- An operation does to the reports what the history tells of it. -/
theorem map_leftBy_reports_apply {diagnostic : Diagnostic} {earlier : List Operation}
    (h : ∀ later, diagnostic.reports.map (leftBy later) = reportsOf later earlier)
    (operation : Operation) (later : List Operation) :
    (operation.apply diagnostic).reports.map (leftBy later) =
      reportsOf later (operation :: earlier) := by
  have hother (hne : operation ≠ .escalate) :
      diagnostic.reports.map (leftBy later) = reportsOf (operation :: later) earlier := by
    rw [← h, leftBy_cons hne]
  rw [reportsOf.eq_def]
  cases operation with
  | clear => rfl
  | collect reports => rfl
  | addReport report | addReports reports | addFile name contents | append other | appendTo other |
    appendSelf =>
    simp only [Operation.apply, reports_addReport, reports_addReports, reports_addFile,
      reports_append, List.map_append, List.map_singleton, hother (by simp)]
  | escalate =>
    simp only [Operation.apply, reports_escalate, List.map_map, ← h]
    congr 1
    funext report
    exact leftBy_withSeverity later report

theorem after_concat (history : List Operation) (operation : Operation) :
    after (history ++ [operation]) = operation.apply (after history) := by
  rw [after, List.foldl_append]
  rfl

/-- The reports are those that the history tells of. -/
theorem reports_after (earlier later : List Operation) :
    (after earlier.reverse).reports.map (leftBy later) = reportsOf later earlier := by
  induction earlier generalizing later with
  | nil => rfl
  | cons operation earlier ih =>
    rw [List.reverse_cons, after_concat]
    exact map_leftBy_reports_apply ih operation later

/-! ### Files -/

/-- An operation does to the files what the history tells of it. -/
theorem file?_apply {diagnostic : Diagnostic} {earlier : List Operation}
    (h : ∀ name, diagnostic.file? name = (registrations earlier).lookup name)
    (operation : Operation) (name : String) :
    (operation.apply diagnostic).file? name =
      (registrations (operation :: earlier)).lookup name := by
  have hentries (other : Diagnostic) : other.files.toList.lookup name = other.file? name :=
    Files.lookup_toList other.files name
  rw [registrations.eq_def]
  cases operation with
  | clear => exact file?_empty name
  | collect reports => exact file?_ofReports reports name
  | addReport report | addReports reports | escalate => exact h name
  | addFile changed contents =>
    simp only [Operation.apply, file?_addFile, List.lookup_cons, h]
    by_cases hname : name = changed
    · rw [if_pos hname, beq_iff_eq.mpr hname]
    · rw [if_neg hname, beq_eq_false_iff_ne.mpr hname]
  | append other | appendTo other | appendSelf =>
    simp only [Operation.apply, file?_append, List.lookup_append, hentries, h]

/-- The contents of a file are those that the history tells of. -/
theorem file?_after (earlier : List Operation) (name : String) :
    (after earlier.reverse).file? name = (registrations earlier).lookup name := by
  induction earlier generalizing name with
  | nil => exact file?_empty name
  | cons operation earlier ih =>
    rw [List.reverse_cons, after_concat]
    exact file?_apply ih operation name

theorem mem_fileNames_iff {diagnostic : Diagnostic} {name : String} :
    name ∈ diagnostic.fileNames ↔ (diagnostic.file? name).isSome = true :=
  Files.mem_keys_iff

/-! ### Counts -/

/-- The reports that are not errors are warnings. -/
theorem warningCount_eq_countP (diagnostic : Diagnostic) :
    diagnostic.warningCount = diagnostic.reports.countP (·.severity = .warning) := by
  have hwarning : (fun report : Report ↦ decide (report.severity = .warning)) =
      fun report ↦ decide ¬report.isError = true := by
    funext report
    rw [Report.isError]
    cases report.severity <;> rfl
  rw [hwarning, warningCount, size, errorCount,
    List.length_eq_countP_add_countP Report.isError, Nat.add_sub_cancel_left]

theorem errorCount_eq_countP (diagnostic : Diagnostic) :
    diagnostic.errorCount = diagnostic.reports.countP (·.severity = .error) := by
  have herror : Report.isError = fun report ↦ decide (report.severity = .error) := by
    funext report
    rw [Report.isError]
    cases report.severity <;> rfl
  rw [errorCount, herror]

theorem errorCount_add_warningCount (diagnostic : Diagnostic) :
    diagnostic.errorCount + diagnostic.warningCount = diagnostic.size :=
  Nat.add_sub_cancel' List.countP_le_length

theorem hasErrors_iff {diagnostic : Diagnostic} :
    diagnostic.hasErrors = true ↔ 0 < diagnostic.errorCount := by
  rw [hasErrors, errorCount, List.any_eq_true, List.countP_pos_iff]

theorem isEmpty_iff {diagnostic : Diagnostic} :
    diagnostic.isEmpty = true ↔ diagnostic.size = 0 := by
  rw [isEmpty, size, List.isEmpty_iff, List.length_eq_zero_iff]

/-- Whatever operations built a diagnostic, it agrees with their history. -/
theorem agreesWith_after (history : List Operation) : (after history).AgreesWith history where
  reports := by
    have h := reports_after history.reverse []
    rw [List.reverse_reverse] at h
    have hself : leftBy [] = id := funext leftBy_nil
    rwa [hself, List.map_id] at h
  file? name := by
    have h := file?_after history.reverse name
    rwa [List.reverse_reverse] at h
  mem_fileNames name := by
    have h := file?_after history.reverse name
    rw [List.reverse_reverse] at h
    rw [mem_fileNames_iff, h, List.lookup_isSome_iff]
    simp only [beq_iff_eq, Prod.exists, ↓existsAndEq, and_true]
  pairwise_fileNames := (after history).files.pairwise_keys
  errorCount := errorCount_eq_countP _
  warningCount := warningCount_eq_countP _
  size := ⟨errorCount_add_warningCount _, rfl⟩
  hasErrors := hasErrors_iff
  isEmpty := isEmpty_iff

/-- A copy is joined with the errors made before, and what joins later is left as it is. -/
example :
    (after [.append ⟨[.headed .warning none "a"], .ofList [("f", "new")]⟩, .escalate, .appendSelf,
      .appendTo ⟨[.headed .warning none "b"], .ofList [("f", "old"), ("g", "")]⟩]) =
        ⟨[.headed .warning none "b", .headed .error none "a", .headed .error none "a"],
          .ofList [("f", "new"), ("g", "")]⟩ := rfl

end SourceDiagnostics.Diagnostic
