import SourceDiagnostics.Failure.Description

/-!
# Reports of failures

Each failure is located once, in the order of the failures, and contributes reports that are
appended in that order. By default a failure has one report, with its description as markers
at the one character where it happened. A mismatch takes the notes that are set for all
failures; a parser that gave up takes the hints of its payloads, and each of its reasons decides
what becomes of the report.
-/

namespace SourceDiagnostics

/-- What the reports of all failures have in common. -/
structure Heading where
  headline : String
  code : Option String := none
  /-- Notes for inputs that did not match. -/
  notes : List Note := []
  deriving DecidableEq, Repr

/-- The message of a failure whose description does not fit into markers. -/
def unknownError : String := "<<Unknown error>>"

/-- The markers for the lines of a description. Only one or two lines fit. -/
def markersOf : List String → List Marker
  | [only] => [⟨.primary, only⟩]
  | [first, second] => [⟨.primary, first⟩, ⟨.secondary, second⟩]
  | _ => [⟨.primary, unknownError⟩]

/-- Joins diagnostics from the first to the last. -/
def Diagnostic.concat (diagnostics : List Diagnostic) : Diagnostic :=
  diagnostics.foldl (· ++ ·) ∅

section

variable {ε : Type} [Payload ε]

/-- The notes that a reason adds to the report of its failure. -/
def Reason.hints : Reason ε → List Note
  | .payload error => Payload.hints error
  | _ => []

/-- What a reason makes of the report of its failure. -/
def Reason.toDiagnostic (report : Report) (span : Span) : Reason ε → Diagnostic
  | .message _ => .ofReports [report]
  | .indentation .. => .ofReports [report]
  | .payload error => .ofReports (Payload.reshape error [report] span)
  | .nested diagnostic => diagnostic

variable [DecidableEq ε]

namespace Failure

/-- The report of a failure at a span before any notes are added. -/
def bareReport (failure : Failure ε) (severity : Severity) (heading : Heading) (span : Span) :
    Report where
  severity := severity
  code := heading.code
  headline := heading.headline
  annotations := (markersOf failure.description).map (⟨span, ·⟩)
  notes := []

/-- The contribution of a failure at a span to the diagnostic of all failures. -/
def toDiagnostic (failure : Failure ε) (severity : Severity) (heading : Heading) (span : Span) :
    Diagnostic :=
  let report := failure.bareReport severity heading span
  match failure.cause with
  | .mismatch .. => .ofReports [report.addNotes heading.notes]
  | .gaveUp [] => .ofReports [report]
  | .gaveUp reasons =>
    let arranged := Reason.arrange reasons
    let report := report.addNotes (arranged.flatMap Reason.hints)
    .concat (arranged.map (Reason.toDiagnostic report span))

end Failure

namespace Diagnostic

variable {m : Type → Type} [Monad m]

/-- The diagnostic of failures. `isError` tells errors from warnings, and `locate` finds where
an offset lies. -/
def ofFailures (isError : Failure ε → Bool) (heading : Heading) (locate : Nat → m Location)
    (failures : List (Failure ε)) : m Diagnostic := do
  let contributions ← failures.mapM fun failure ↦ do
    let location ← locate failure.offset
    let severity := if isError failure then Severity.error else Severity.warning
    return failure.toDiagnostic severity heading (.point location)
  return concat contributions

/-- The diagnostic of failures that are all errors. -/
def ofErrors (heading : Heading) (locate : Nat → m Location) (failures : List (Failure ε)) :
    m Diagnostic :=
  ofFailures (fun _ ↦ true) heading locate failures

/-- The diagnostic of failures that are all warnings. -/
def ofWarnings (heading : Heading) (locate : Nat → m Location) (failures : List (Failure ε)) :
    m Diagnostic :=
  ofFailures (fun _ ↦ false) heading locate failures

end Diagnostic

end

end SourceDiagnostics
