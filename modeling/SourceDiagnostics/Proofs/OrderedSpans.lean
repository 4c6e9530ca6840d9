import SourceDiagnostics.Numbers.Problem
import SourceDiagnostics.Proofs.Combining
import SourceDiagnostics.Proofs.DefaultReports

/-!
# Spans that begin no later than they end

A span that is filled in field by field may begin after it ends. Converting failures makes no such
span: wherever a failure is located, the span of its report passes the check of spans that are built
from two places. Spans from elsewhere are those of the diagnostics of other parsers and those that
payloads make of the span they are given. Where these are ordered, so is every span of the outcome.
-/

namespace SourceDiagnostics

/-! ### Ordered reports and what keeps them so -/

/-- No span of the report begins after it ends. -/
def Report.IsOrdered (report : Report) : Prop := ∀ marked ∈ report.annotations, marked.span.Ordered

instance (report : Report) : Decidable report.IsOrdered :=
  inferInstanceAs (Decidable (∀ marked ∈ report.annotations, marked.span.Ordered))

/-- No span of a report begins after it ends. -/
def Diagnostic.IsOrdered (diagnostic : Diagnostic) : Prop :=
  ∀ report ∈ diagnostic.reports, report.IsOrdered

instance (diagnostic : Diagnostic) : Decidable diagnostic.IsOrdered :=
  inferInstanceAs (Decidable (∀ report ∈ diagnostic.reports, report.IsOrdered))

section

variable {ε : Type} [Payload ε]

/-- Of ordered reports and an ordered span the error makes ordered reports. -/
def Payload.KeepsOrder (error : ε) : Prop :=
  ∀ (reports : List Report) (span : Span), span.Ordered → (∀ report ∈ reports, report.IsOrdered) →
    ∀ report ∈ Payload.reshape error reports span, report.IsOrdered

/-- A payload keeps reports ordered, and the diagnostic of another parser is ordered. -/
def Reason.KeepsOrder : Reason ε → Prop
  | .message _ => True
  | .indentation .. => True
  | .payload error => Payload.KeepsOrder error
  | .nested diagnostic => diagnostic.IsOrdered

/-- The reasons for which a parser gave up; a mismatch has none. -/
def Failure.reasons (failure : Failure ε) : List (Reason ε) :=
  match failure.cause with
  | .mismatch .. => []
  | .gaveUp reasons => reasons

/-- No reason of the failure brings in a span that begins after it ends. -/
def Failure.KeepsOrder (failure : Failure ε) : Prop := ∀ reason ∈ failure.reasons, reason.KeepsOrder

end

/-! ### Payloads -/

theorem Report.IsOrdered.annotate {report : Report} (h : report.IsOrdered) {span : Span}
    (hspan : span.Ordered) (role : Role) (message : String) :
    (report.annotate span role message).IsOrdered := by
  intro marked hmarked
  rw [annotations_annotate, List.mem_append, List.mem_singleton] at hmarked
  obtain hmarked | rfl := hmarked
  · exact h marked hmarked
  · exact hspan

/-- An error that leaves the reports to what is made by default keeps them ordered. -/
theorem Payload.keepsOrder_default {ε : Type} (text : ε → String) (hints : ε → List Note)
    (error : ε) : letI : Payload ε := { text, hints }; Payload.KeepsOrder error :=
  fun _ _ _ hreports ↦ hreports

/-- A problem with a number marks nothing but the span it is given. -/
theorem Numbers.Problem.keepsOrder (problem : Problem) : Payload.KeepsOrder problem := by
  intro reports span hspan hreports report hreport
  obtain ⟨original, horiginal, rfl⟩ := List.mem_map.mp hreport
  have hcoded : (original.withCode problem.code.name).IsOrdered := hreports original horiginal
  cases problem with
  | strayCharacter found => exact hcoded
  | tooLarge digits => exact hcoded.annotate hspan .suggestion greatestText

/-! ### Contributions -/

/-- A report that points at an ordered span is ordered. -/
theorem Report.PointsAt.isOrdered {report : Report} {span : Span} (h : report.PointsAt span)
    (hspan : span.Ordered) : report.IsOrdered := by
  obtain ⟨first, second, hannotations⟩ := h.annotations
  intro marked hmarked
  rw [hannotations, List.mem_cons, List.mem_map] at hmarked
  obtain rfl | ⟨message, -, rfl⟩ := hmarked
  · exact hspan
  · exact hspan

namespace Diagnostic

theorem isOrdered_empty : (∅ : Diagnostic).IsOrdered := by simp [IsOrdered]

theorem IsOrdered.append {first second : Diagnostic} (hfirst : first.IsOrdered)
    (hsecond : second.IsOrdered) : (first ++ second).IsOrdered := by
  intro report hreport
  rw [reports_append, List.mem_append] at hreport
  exact hreport.elim (hfirst report) (hsecond report)

theorem isOrdered_concat {diagnostics : List Diagnostic}
    (h : ∀ diagnostic ∈ diagnostics, diagnostic.IsOrdered) : (concat diagnostics).IsOrdered := by
  intro report hreport
  rw [reports_concat, List.mem_flatMap] at hreport
  obtain ⟨diagnostic, hdiagnostic, hreport⟩ := hreport
  exact h diagnostic hdiagnostic report hreport

theorem isOrdered_ofReports_singleton {report : Report} (h : report.IsOrdered) :
    (ofReports [report]).IsOrdered := by
  simpa [IsOrdered] using h

end Diagnostic

section

variable {ε : Type} [Payload ε]

/-- What a reason makes of an ordered report at an ordered span is ordered. -/
theorem Reason.KeepsOrder.isOrdered_toDiagnostic {reason : Reason ε} (h : reason.KeepsOrder)
    {report : Report} (hreport : report.IsOrdered) {span : Span} (hspan : span.Ordered) :
    (reason.toDiagnostic report span).IsOrdered := by
  have hself := Diagnostic.isOrdered_ofReports_singleton hreport
  cases reason with
  | message text => exact hself
  | indentation expected reference actual => exact hself
  | payload error => exact h [report] span hspan hself
  | nested diagnostic => exact h

variable [DecidableEq ε]

/-- What becomes of an ordered report at an ordered span is ordered. -/
theorem Failure.KeepsOrder.isOrdered_handOut {failure : Failure ε} (h : failure.KeepsOrder)
    {report : Report} (hreport : report.IsOrdered) {span : Span} (hspan : span.Ordered) :
    (failure.handOut report span).IsOrdered := by
  have hself := Diagnostic.isOrdered_ofReports_singleton hreport
  obtain ⟨offset, cause⟩ := failure
  match cause with
  | .mismatch .. => exact hself
  | .gaveUp [] => exact hself
  | .gaveUp (first :: others) =>
    apply Diagnostic.isOrdered_concat
    intro diagnostic hdiagnostic
    obtain ⟨reason, hreason, rfl⟩ := List.mem_map.mp hdiagnostic
    have hgiven := ((Reason.isArrangement_arrange _).mem_iff reason).mp hreason
    exact (h reason hgiven).isOrdered_toDiagnostic hreport hspan

/-- What a failure contributes where it is located is ordered. -/
theorem Failure.KeepsOrder.isOrdered_toDiagnostic {failure : Failure ε} (h : failure.KeepsOrder)
    (severity : Severity) (heading : Heading) (location : Location) :
    (failure.toDiagnostic severity heading (.point location)).IsOrdered := by
  have hspan := Span.ordered_point location
  have hpoints := failure.pointsAt_defaultReport severity heading (.point location)
  rw [toDiagnostic_eq_handOut]
  exact h.isOrdered_handOut (hpoints.isOrdered hspan) hspan

/-! ### Converting under the check of spans -/

namespace Diagnostic

variable {m : Type → Type} [Monad m]

/-- The diagnostic of failures, where each span is built from its two places and refused if it
begins after it ends. -/
def ofFailuresChecked (isError : Failure ε → Bool) (heading : Heading)
    (locate : Nat → m Location) (failures : List (Failure ε)) : ExceptT Fault m Diagnostic := do
  let contributions ← failures.mapM fun failure ↦ do
    let location ← monadLift (locate failure.offset)
    let severity := if isError failure then Severity.error else Severity.warning
    let next := Numbering.nextOrGreatest location.place.column
    let span ← liftExcept (Span.between location.place ⟨location.place.line, next⟩ location.file)
    return failure.toDiagnostic severity heading span
  return concat contributions

variable [LawfulMonad m]

private theorem mapM_monadLift {α β : Type} (f : α → m β) (items : List α) :
    (items.mapM fun item ↦ (monadLift (f item) : ExceptT Fault m β)) =
      monadLift (items.mapM f) := by
  induction items with
  | nil => simp
  | cons item items ih =>
    rw [List.mapM_cons, List.mapM_cons, ih]
    simp

/-- No span is refused when failures are converted. -/
theorem run_ofFailuresChecked (isError : Failure ε → Bool) (heading : Heading)
    (locate : Nat → m Location) (failures : List (Failure ε)) :
    (ofFailuresChecked isError heading locate failures).run =
      Except.ok <$> ofFailures isError heading locate failures := by
  have haccepted (location : Location) :
      (liftExcept (Span.between location.place
        ⟨location.place.line, Numbering.nextOrGreatest location.place.column⟩ location.file) :
          ExceptT Fault m Span) = pure (.point location) :=
    congrArg liftExcept (Span.between_point location)
  have hlift : ofFailuresChecked isError heading locate failures =
      monadLift (ofFailures isError heading locate failures) := by
    simp only [ofFailuresChecked, ofFailures, haccepted, pure_bind, monadLift_bind,
      monadLift_pure, ← mapM_monadLift]
  rw [hlift]
  exact ExceptT.run_lift _

/-! ### Runs -/

/-- The diagnostic of failures that bring in no reversed span comes with the fact that it has none,
whatever locating them does. -/
theorem exists_isOrdered_ofFailures (isError : Failure ε → Bool) (heading : Heading)
    (locate : Nat → m Location) {failures : List (Failure ε)}
    (h : ∀ failure ∈ failures, failure.KeepsOrder) :
    ∃ checked : m {diagnostic : Diagnostic // diagnostic.IsOrdered},
      Subtype.val <$> checked = ofFailures isError heading locate failures := by
  induction failures with
  | nil => exact ⟨pure ⟨∅, isOrdered_empty⟩, by simp [ofFailures, concat]⟩
  | cons failure failures ih =>
    rw [List.forall_mem_cons] at h
    obtain ⟨others, hothers⟩ := ih h.2
    let checked : m {diagnostic : Diagnostic // diagnostic.IsOrdered} := do
      let location ← locate failure.offset
      let rest ← others
      return ⟨_, (h.1.isOrdered_toDiagnostic (if isError failure then .error else .warning) heading
        location).append rest.property⟩
    refine ⟨checked, ?_⟩
    rw [ofFailures_cons, ← hothers]
    simp [checked]

/-- Converting failures refuses no span, wherever they are located. All that failures contribute is
made of one report for each, which points at the one character where the failure is located. Where
payloads keep reports ordered and the diagnostics of other parsers are ordered, so is the outcome.
Problems with numbers and errors that leave the reports as they are keep them ordered. -/
theorem ofFailures_spans (isError : Failure ε → Bool) (heading : Heading)
    (locate : Nat → m Location) (failures : List (Failure ε)) :
    (ofFailuresChecked isError heading locate failures).run =
        Except.ok <$> ofFailures isError heading locate failures ∧
      (ofFailures isError heading locate failures = do
        let contributions ← failures.mapM fun failure ↦ do
          let location ← locate failure.offset
          let severity := if isError failure then Severity.error else Severity.warning
          let report := failure.defaultReport severity heading (.point location)
          return failure.handOut report (.point location)
        return concat contributions) ∧
      (∀ (failure : Failure ε) (severity : Severity) (location : Location),
        (failure.defaultReport severity heading (.point location)).PointsAt (.point location)) ∧
      ((∀ failure ∈ failures, failure.KeepsOrder) →
        ∃ checked : m {diagnostic : Diagnostic // diagnostic.IsOrdered},
          Subtype.val <$> checked = ofFailures isError heading locate failures) ∧
      (∀ problem : Numbers.Problem, Payload.KeepsOrder problem) ∧
      ∀ (δ : Type) (text : δ → String) (hints : δ → List Note) (error : δ),
        letI : Payload δ := { text, hints }; Payload.KeepsOrder error := by
  refine ⟨run_ofFailuresChecked isError heading locate failures, ?_, ?_, ?_, ?_, ?_⟩
  · simp only [ofFailures, Failure.toDiagnostic_eq_handOut]
  · exact fun failure severity location ↦ failure.pointsAt_defaultReport severity heading _
  · exact exists_isOrdered_ofFailures isError heading locate
  · exact Numbers.Problem.keepsOrder
  · exact fun _ ↦ Payload.keepsOrder_default

/-- A number that is too large at the greatest column, beside the report of another parser. -/
theorem ofFailures_spans_greatest_column :
    LawfulMonad Id ∧
      (ofFailures (m := Id) (ε := Numbers.Problem) (fun _ ↦ true) { headline := "bad input" }
        (fun _ ↦ ⟨⟨7, Numbering.greatest⟩, "a.txt"⟩)
        [.mismatch 5 none [],
          .gaveUp 3 [.payload (.tooLarge 30), .nested (.ofReports
            [(Report.headed .warning none "odd").annotate .nowhere .primary
              "here"])]]).IsOrdered := by
  have hnested : (ofReports
      [(Report.headed .warning none "odd").annotate .nowhere .primary "here"]).IsOrdered := by
    decide
  have hgiven : ∀ failure ∈ ([.mismatch 5 none [],
      .gaveUp 3 [.payload (.tooLarge 30), .nested (.ofReports
        [(Report.headed .warning none "odd").annotate .nowhere .primary "here"])]] :
          List (Failure Numbers.Problem)), failure.KeepsOrder := by
    simp [Failure.KeepsOrder, Failure.reasons, Failure.mismatch, Failure.gaveUp, Reason.KeepsOrder,
      Numbers.Problem.keepsOrder, hnested]
  obtain ⟨checked, hchecked⟩ := (ofFailures_spans (m := Id) (fun _ ↦ true)
    { headline := "bad input" } (fun _ ↦ ⟨⟨7, Numbering.greatest⟩, "a.txt"⟩) _).2.2.2.1 hgiven
  refine ⟨inferInstance, ?_⟩
  rw [← hchecked]
  exact checked.property

end Diagnostic

end

end SourceDiagnostics
