import SourceDiagnostics.Proofs.Conversion

/-!
# The report of a failure

Whatever a failure is about, one report is made for it, and everything the failure contributes is
made of that report. A mismatch and a parser that gave no reasons have it as it is. Otherwise each
reason is handed the report. A message and an indentation leave it as it is, a payload may change
it, and the diagnostic of another parser comes in its place.
-/

namespace SourceDiagnostics

/-- The report marks a span as the place of its finding, once and before anything else, and at most
one more time, as a place that helps to understand it. -/
structure Report.PointsAt (report : Report) (span : Span) : Prop where
  annotations : ∃ (first : String) (second : Option String), report.annotations =
    ⟨span, ⟨.primary, first⟩⟩ :: second.toList.map fun message ↦ ⟨span, ⟨.secondary, message⟩⟩
  primarySpan? : report.primarySpan? = some span

namespace Failure

variable {ε : Type} [Payload ε] [DecidableEq ε]

/-- The notes of the report of a failure. -/
def defaultNotes (failure : Failure ε) (heading : Heading) : List Note :=
  match failure.cause with
  | .mismatch .. => heading.notes
  | .gaveUp reasons => (Reason.arrange reasons).flatMap Reason.hints

/-- The report of a failure at a span. -/
def defaultReport (failure : Failure ε) (severity : Severity) (heading : Heading) (span : Span) :
    Report :=
  (failure.bareReport severity heading span).addNotes (failure.defaultNotes heading)

/-- What becomes of the report of a failure at a span. -/
def handOut (failure : Failure ε) (report : Report) (span : Span) : Diagnostic :=
  match failure.cause with
  | .mismatch .. => .ofReports [report]
  | .gaveUp [] => .ofReports [report]
  | .gaveUp reasons => .concat ((Reason.arrange reasons).map (Reason.toDiagnostic report span))

/-- A failure contributes nothing but what becomes of its report. -/
theorem toDiagnostic_eq_handOut (failure : Failure ε) (severity : Severity) (heading : Heading)
    (span : Span) :
    failure.toDiagnostic severity heading span =
      failure.handOut (failure.defaultReport severity heading span) span := by
  obtain ⟨offset, cause⟩ := failure
  match cause with
  | .mismatch .. => rfl
  | .gaveUp [] =>
    have hnotes : (⟨offset, .gaveUp []⟩ : Failure ε).defaultNotes heading = [] := by
      simp only [defaultNotes, Reason.arrange_nil, List.flatMap_nil]
    rw [defaultReport, hnotes]
    rfl
  | .gaveUp (_ :: _) => rfl

end Failure

/-- The markers of a description begin with the one that shows where the finding is. -/
theorem markersOf_eq_cons (lines : List String) :
    ∃ (first : String) (second : Option String), markersOf lines =
      ⟨.primary, first⟩ :: second.toList.map fun message ↦ ⟨.secondary, message⟩ := by
  match lines with
  | [] => exact ⟨unknownError, none, rfl⟩
  | [only] => exact ⟨only, none, rfl⟩
  | [first, second] => exact ⟨first, some second, rfl⟩
  | _ :: _ :: _ :: _ => exact ⟨unknownError, none, rfl⟩

/-- The report of a failure points at the span where the failure is. -/
theorem Failure.pointsAt_defaultReport {ε : Type} [Payload ε] [DecidableEq ε]
    (failure : Failure ε) (severity : Severity) (heading : Heading) (span : Span) :
    (failure.defaultReport severity heading span).PointsAt span := by
  obtain ⟨first, second, hmarkers⟩ := markersOf_eq_cons failure.description
  have hannotations : (failure.defaultReport severity heading span).annotations =
      ⟨span, ⟨.primary, first⟩⟩ :: second.toList.map fun message ↦
        ⟨span, ⟨.secondary, message⟩⟩ := by
    rw [defaultReport, Report.addNotes, bareReport, hmarkers, List.map_cons, List.map_map]
    rfl
  refine ⟨⟨first, second, hannotations⟩, ?_⟩
  rw [Report.primarySpan?, hannotations, List.find?_cons_of_pos rfl, Option.map_some]

end SourceDiagnostics
