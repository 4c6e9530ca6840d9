import SourceDiagnostics.Proofs.OrderedSpans

/-!
# What is taken for an error

Which failures are taken for errors decides about the severities of their reports and about nothing
else. The same failures, taken for errors in two ways, come to the same findings and the same files,
as long as payloads make the same findings of the same findings. The reports of other parsers keep
the severities that these gave them. Locating may do other things besides, so the two conversions
are compared as runs: there is one run that gives the outcomes of both.
-/

namespace SourceDiagnostics

/-! ### The same findings -/

/-- Reports are the same in everything but their severities. -/
structure Report.SameFinding (first second : Report) : Prop where
  code : first.code = second.code
  headline : first.headline = second.headline
  annotations : first.annotations = second.annotations
  notes : first.notes = second.notes

/-- Diagnostics have as many reports as each other, the same but for their severities, and the same
files. -/
structure Diagnostic.SameFindings (first second : Diagnostic) : Prop where
  reports : List.Forall₂ Report.SameFinding first.reports second.reports
  files : first.files = second.files

/-- Reports stand at the same place in two lists. -/
def StandAlike (reports first second : List Report) : Prop :=
  ∃ front back front' back' : List Report, front.length = front'.length ∧
    first = front ++ reports ++ back ∧ second = front' ++ reports ++ back'

/-- The error makes the same findings of the same findings. -/
def Payload.IgnoresSeverity {ε : Type} [Payload ε] (error : ε) : Prop :=
  ∀ (first second : List Report) (span : Span), List.Forall₂ Report.SameFinding first second →
    List.Forall₂ Report.SameFinding (Payload.reshape error first span)
      (Payload.reshape error second span)

/-- Some parser inside the one that failed handed on its diagnostic. -/
def HandedOn {ε : Type} [Payload ε] (failures : List (Failure ε)) (nested : Diagnostic) : Prop :=
  ∃ failure ∈ failures, .nested nested ∈ failure.reasons

/-- Two runs are the same but for their outcomes, which are related: one run gives both. -/
def RunsAlike {m : Type → Type} [Functor m] {α β : Type} (R : α → β → Prop) (first : m α)
    (second : m β) : Prop :=
  ∃ both : m {outcomes : α × β // R outcomes.1 outcomes.2},
    (·.val.1) <$> both = first ∧ (·.val.2) <$> both = second

/-! ### Runs that are alike -/

namespace RunsAlike

variable {m : Type → Type} [Monad m] [LawfulMonad m] {α β γ δ : Type}
  {R : α → β → Prop} {S : γ → δ → Prop}

/-- What takes related outcomes to the same value takes the runs to the same run. -/
theorem map_eq {first : m α} {second : m β} (h : RunsAlike R first second) {f : α → γ} {g : β → γ}
    (hfg : ∀ a b, R a b → f a = g b) : f <$> first = g <$> second := by
  obtain ⟨both, rfl, rfl⟩ := h
  rw [← comp_map, ← comp_map]
  congr 1
  funext outcomes
  exact hfg _ _ outcomes.property

theorem refl (run : m α) : RunsAlike Eq run run :=
  ⟨(fun outcome ↦ ⟨(outcome, outcome), rfl⟩) <$> run, by simp, by simp⟩

theorem pure {a : α} {b : β} (h : R a b) : RunsAlike R (Pure.pure a : m α) (Pure.pure b) :=
  ⟨Pure.pure ⟨(a, b), h⟩, by simp, by simp⟩

/-- Runs that are alike go on alike. -/
theorem bind {first : m α} {second : m β} (h : RunsAlike R first second) {f : α → m γ}
    {g : β → m δ} (hfg : ∀ a b, R a b → RunsAlike S (f a) (g b)) :
    RunsAlike S (first >>= f) (second >>= g) := by
  obtain ⟨both, rfl, rfl⟩ := h
  choose behind hfirst hsecond using hfg
  refine ⟨both >>= fun outcomes ↦ behind _ _ outcomes.property, ?_, ?_⟩
  · simp only [map_bind, bind_map_left, hfirst]
  · simp only [map_bind, bind_map_left, hsecond]

end RunsAlike

/-! ### Reports -/

namespace Report.SameFinding

variable {first second : Report}

theorem refl (report : Report) : report.SameFinding report := ⟨rfl, rfl, rfl, rfl⟩

/-- Given the same severity, the reports are equal. -/
theorem withSeverity_eq (h : first.SameFinding second) (severity : Severity) :
    first.withSeverity severity = second.withSeverity severity := by
  rw [withSeverity, withSeverity, h.code, h.headline, h.annotations, h.notes]

theorem withCode (h : first.SameFinding second) (code : String) :
    (first.withCode code).SameFinding (second.withCode code) :=
  ⟨rfl, h.headline, h.annotations, h.notes⟩

theorem annotate (h : first.SameFinding second) (span : Span) (role : Role) (message : String) :
    (first.annotate span role message).SameFinding (second.annotate span role message) where
  code := h.code
  headline := h.headline
  annotations := by rw [annotations_annotate, annotations_annotate, h.annotations]
  notes := h.notes

end Report.SameFinding

/-! ### Payloads -/

/-- An error that leaves the reports to what is made by default looks at no severity. -/
theorem Payload.ignoresSeverity_default {ε : Type} (text : ε → String) (hints : ε → List Note)
    (error : ε) : letI : Payload ε := { text, hints }; Payload.IgnoresSeverity error :=
  fun _ _ _ h ↦ h

/-- A problem with a number looks at no severity. -/
theorem Numbers.Problem.ignoresSeverity (problem : Problem) : Payload.IgnoresSeverity problem := by
  intro first second span h
  show List.Forall₂ Report.SameFinding (first.map (problem.reshape · span))
    (second.map (problem.reshape · span))
  rw [List.forall₂_map_left_iff, List.forall₂_map_right_iff]
  apply h.imp
  intro report other hsame
  have hcoded := hsame.withCode problem.code.name
  cases problem with
  | strayCharacter found => exact hcoded
  | tooLarge digits => exact hcoded.annotate span .suggestion greatestText

/-! ### Joined diagnostics -/

theorem StandAlike.append_left {reports first second : List Report}
    (h : StandAlike reports first second) {before before' : List Report}
    (hlength : before.length = before'.length) :
    StandAlike reports (before ++ first) (before' ++ second) := by
  obtain ⟨front, back, front', back', hfront, rfl, rfl⟩ := h
  refine ⟨before ++ front, back, before' ++ front', back', ?_, ?_, ?_⟩
  · rw [List.length_append, List.length_append, hlength, hfront]
  · simp only [List.append_assoc]
  · simp only [List.append_assoc]

theorem StandAlike.append_right {reports first second : List Report}
    (h : StandAlike reports first second) (behind behind' : List Report) :
    StandAlike reports (first ++ behind) (second ++ behind') := by
  obtain ⟨front, back, front', back', hfront, rfl, rfl⟩ := h
  refine ⟨front, back ++ behind, front', back' ++ behind', hfront, ?_, ?_⟩
  · simp only [List.append_assoc]
  · simp only [List.append_assoc]

namespace Diagnostic.SameFindings

theorem refl (diagnostic : Diagnostic) : diagnostic.SameFindings diagnostic :=
  ⟨List.forall₂_same.mpr fun report _ ↦ .refl report, rfl⟩

theorem ofReports {first second : List Report} (h : List.Forall₂ Report.SameFinding first second) :
    (Diagnostic.ofReports first).SameFindings (.ofReports second) :=
  ⟨h, rfl⟩

theorem append {first second first' second' : Diagnostic} (h : first.SameFindings second)
    (h' : first'.SameFindings second') : (first ++ first').SameFindings (second ++ second') where
  reports := List.rel_append h.reports h'.reports
  files := congrArg₂ (· ∪ ·) h.files h'.files

theorem concat {firsts seconds : List Diagnostic}
    (h : List.Forall₂ SameFindings firsts seconds) :
    (Diagnostic.concat firsts).SameFindings (.concat seconds) := by
  induction h with
  | nil => exact .refl ∅
  | cons hhead _ ih =>
    rw [concat_cons, concat_cons]
    exact hhead.append ih

/-- Once all reports are errors, the diagnostics are equal. -/
theorem escalate_eq {first second : Diagnostic} (h : first.SameFindings second) :
    first.escalate = second.escalate := by
  have hreports : first.reports.map (·.withSeverity .error) =
      second.reports.map (·.withSeverity .error) := by
    rw [← List.forall₂_eq_eq_eq, List.forall₂_map_left_iff, List.forall₂_map_right_iff]
    exact h.reports.imp fun _ _ hsame ↦ hsame.withSeverity_eq .error
  rw [escalate, escalate, hreports, h.files]

end Diagnostic.SameFindings

/-! ### Contributions -/

section

variable {ε : Type} [Payload ε]

theorem HandedOn.cons_cases {failure : Failure ε} {failures : List (Failure ε)}
    {nested : Diagnostic} (h : HandedOn (failure :: failures) nested) :
    .nested nested ∈ failure.reasons ∨ HandedOn failures nested := by
  obtain ⟨source, hsource, hnested⟩ := h
  rcases List.mem_cons.mp hsource with rfl | hsource
  · exact .inl hnested
  · exact .inr ⟨source, hsource, hnested⟩

/-- Of the same finding a reason makes the same findings. -/
theorem Reason.sameFindings_toDiagnostic (h : ∀ error : ε, Payload.IgnoresSeverity error)
    {first second : Report} (hsame : first.SameFinding second) (span : Span) (reason : Reason ε) :
    (reason.toDiagnostic first span).SameFindings (reason.toDiagnostic second span) := by
  have hself : List.Forall₂ Report.SameFinding [first] [second] := .cons hsame .nil
  cases reason with
  | message text => exact .ofReports hself
  | indentation expected reference actual => exact .ofReports hself
  | payload error => exact .ofReports (h error [first] [second] span hself)
  | nested diagnostic => exact .refl diagnostic

theorem Reason.sameFindings_concat (h : ∀ error : ε, Payload.IgnoresSeverity error)
    {first second : Report} (hsame : first.SameFinding second) (span : Span)
    (reasons : List (Reason ε)) :
    (Diagnostic.concat (reasons.map (Reason.toDiagnostic first span))).SameFindings
      (.concat (reasons.map (Reason.toDiagnostic second span))) := by
  apply Diagnostic.SameFindings.concat
  rw [List.forall₂_map_left_iff, List.forall₂_map_right_iff, List.forall₂_same]
  exact fun reason _ ↦ reason.sameFindings_toDiagnostic h hsame span

variable [DecidableEq ε]

namespace Failure

/-- The reports of a failure under two severities tell of the same finding. -/
theorem sameFinding_defaultReport (failure : Failure ε) (severity severity' : Severity)
    (heading : Heading) (span : Span) :
    (failure.defaultReport severity heading span).SameFinding
      (failure.defaultReport severity' heading span) :=
  ⟨rfl, rfl, rfl, rfl⟩

/-- What becomes of reports of the same finding are the same findings. -/
theorem sameFindings_handOut (h : ∀ error : ε, Payload.IgnoresSeverity error)
    {first second : Report} (hsame : first.SameFinding second) (failure : Failure ε)
    (span : Span) :
    (failure.handOut first span).SameFindings (failure.handOut second span) := by
  have hself : List.Forall₂ Report.SameFinding [first] [second] := .cons hsame .nil
  obtain ⟨offset, cause⟩ := failure
  match cause with
  | .mismatch .. => exact .ofReports hself
  | .gaveUp [] => exact .ofReports hself
  | .gaveUp (_ :: _) => exact Reason.sameFindings_concat h hsame span _

/-- The reports of another parser come between what other reasons make of the failure's report. -/
theorem exists_reports_handOut {failure : Failure ε} {nested : Diagnostic}
    (hnested : .nested nested ∈ failure.reasons) :
    ∃ front back : List (Reason ε), ∀ report span, (failure.handOut report span).reports =
      (Diagnostic.concat (front.map (Reason.toDiagnostic report span))).reports ++ nested.reports ++
        (Diagnostic.concat (back.map (Reason.toDiagnostic report span))).reports := by
  obtain ⟨offset, cause⟩ := failure
  match cause with
  | .mismatch .. => cases hnested
  | .gaveUp [] => cases hnested
  | .gaveUp (first :: others) =>
    have harranged := ((Reason.isArrangement_arrange (first :: others)).mem_iff _).mpr hnested
    obtain ⟨front, back, hsplit⟩ := List.append_of_mem harranged
    refine ⟨front, back, fun report span ↦ ?_⟩
    have hhanded : (⟨offset, .gaveUp (first :: others)⟩ : Failure ε).handOut report span =
        .concat ((Reason.arrange (first :: others)).map (Reason.toDiagnostic report span)) := rfl
    rw [hhanded, hsplit, List.map_append, List.map_cons, Diagnostic.concat_append,
      Diagnostic.concat_cons, Diagnostic.reports_append, Diagnostic.reports_append,
      List.append_assoc]
    rfl

/-- The reports of another parser stand at the same place in what becomes of reports of the same
finding. -/
theorem standAlike_handOut (h : ∀ error : ε, Payload.IgnoresSeverity error)
    {first second : Report} (hsame : first.SameFinding second) {failure : Failure ε}
    {nested : Diagnostic} (hnested : .nested nested ∈ failure.reasons) (span : Span) :
    StandAlike nested.reports (failure.handOut first span).reports
      (failure.handOut second span).reports := by
  obtain ⟨front, back, hreports⟩ := exists_reports_handOut hnested
  have hfront := (Reason.sameFindings_concat h hsame span front).reports.length_eq
  exact ⟨_, _, _, _, hfront, hreports first span, hreports second span⟩

end Failure

/-! ### Conversions -/

namespace Diagnostic

/-- The outcomes of two conversions of the same failures differ in nothing but severities, and not
even in these where the reports are those of other parsers. -/
structure DifferInSeverity (failures : List (Failure ε)) (first second : Diagnostic) : Prop where
  sameFindings : first.SameFindings second
  standAlike : ∀ nested, HandedOn failures nested →
    StandAlike nested.reports first.reports second.reports

variable {m : Type → Type} [Monad m] [LawfulMonad m]

/-- Conversions are alike in what no failures have and each failure keeps. -/
theorem runsAlike_ofFailures {R : List (Failure ε) → Diagnostic → Diagnostic → Prop}
    (isError isError' : Failure ε → Bool) (heading : Heading) (locate : Nat → m Location)
    (hnil : R [] ∅ ∅)
    (hcons : ∀ failure failures severity severity' span first second, R failures first second →
      R (failure :: failures) (failure.toDiagnostic severity heading span ++ first)
        (failure.toDiagnostic severity' heading span ++ second))
    (failures : List (Failure ε)) :
    RunsAlike (R failures) (ofFailures isError heading locate failures)
      (ofFailures isError' heading locate failures) := by
  induction failures with
  | nil =>
    simp only [ofFailures, List.mapM_nil, pure_bind]
    exact .pure hnil
  | cons failure failures ih =>
    rw [ofFailures_cons, ofFailures_cons]
    apply (RunsAlike.refl (locate failure.offset)).bind
    rintro location _ rfl
    apply ih.bind
    intro first second hothers
    exact .pure (hcons failure failures _ _ _ first second hothers)

/-- The reports of other parsers are among those of the outcome as they are, whatever is taken for
an error and whatever payloads do. -/
theorem runsAlike_isInfix (isError isError' : Failure ε → Bool) (heading : Heading)
    (locate : Nat → m Location) (failures : List (Failure ε)) :
    RunsAlike
      (fun first second ↦ ∀ nested, HandedOn failures nested →
        nested.reports <:+: first.reports ∧ nested.reports <:+: second.reports)
      (ofFailures isError heading locate failures)
      (ofFailures isError' heading locate failures) := by
  refine runsAlike_ofFailures (R := fun failures first second ↦ ∀ nested,
    HandedOn failures nested → nested.reports <:+: first.reports ∧
      nested.reports <:+: second.reports) isError isError' heading locate ?_ ?_ failures
  · rintro nested ⟨failure, hfailure, -⟩
    cases hfailure
  · intro failure failures severity severity' span first second ih nested hnested
    rw [reports_append, reports_append]
    rcases hnested.cons_cases with hhead | hothers
    · obtain ⟨front, back, hreports⟩ := Failure.exists_reports_handOut hhead
      rw [Failure.toDiagnostic_eq_handOut, Failure.toDiagnostic_eq_handOut, hreports, hreports]
      exact ⟨(List.infix_append _ _ _).trans (List.prefix_append _ _).isInfix,
        (List.infix_append _ _ _).trans (List.prefix_append _ _).isInfix⟩
    · obtain ⟨hfirst, hsecond⟩ := ih nested hothers
      exact ⟨hfirst.trans (List.suffix_append _ _).isInfix,
        hsecond.trans (List.suffix_append _ _).isInfix⟩

/-- Conversions whose payloads look at no severity differ in nothing else. -/
theorem runsAlike_differInSeverity (h : ∀ error : ε, Payload.IgnoresSeverity error)
    (isError isError' : Failure ε → Bool) (heading : Heading) (locate : Nat → m Location)
    (failures : List (Failure ε)) :
    RunsAlike (DifferInSeverity failures) (ofFailures isError heading locate failures)
      (ofFailures isError' heading locate failures) := by
  apply runsAlike_ofFailures
  · refine ⟨.refl ∅, ?_⟩
    rintro nested ⟨failure, hfailure, -⟩
    cases hfailure
  · intro failure failures severity severity' span first second ih
    have hreport := failure.sameFinding_defaultReport severity severity' heading span
    have hsame := failure.sameFindings_handOut h hreport span
    rw [Failure.toDiagnostic_eq_handOut, Failure.toDiagnostic_eq_handOut]
    refine ⟨hsame.append ih.sameFindings, ?_⟩
    intro nested hnested
    rcases hnested.cons_cases with hhead | hothers
    · exact (Failure.standAlike_handOut h hreport hhead span).append_right _ _
    · exact (ih.standAlike nested hothers).append_left hsame.reports.length_eq

/-- What is taken for an error decides about severities alone. The reports of other parsers keep
theirs in every conversion. Where payloads make the same findings of the same findings, two
conversions of the same failures have the same number of reports, which are the same but for their
severities, and the same files, and once all reports are errors there is no difference left.
Problems with numbers are such payloads, and so are errors that leave the reports as they are, as
texts do. -/
theorem ofFailures_severity :
    (∀ (isError isError' : Failure ε → Bool) (heading : Heading) (locate : Nat → m Location)
      (failures : List (Failure ε)),
      RunsAlike
        (fun first second ↦ ∀ nested, HandedOn failures nested →
          nested.reports <:+: first.reports ∧ nested.reports <:+: second.reports)
        (ofFailures isError heading locate failures)
        (ofFailures isError' heading locate failures)) ∧
    ((∀ error : ε, Payload.IgnoresSeverity error) →
      ∀ (heading : Heading) (locate : Nat → m Location) (failures : List (Failure ε)),
        (∀ isError isError' : Failure ε → Bool,
          RunsAlike (DifferInSeverity failures) (ofFailures isError heading locate failures)
            (ofFailures isError' heading locate failures)) ∧
        escalate <$> ofErrors heading locate failures =
          escalate <$> ofWarnings heading locate failures) ∧
    (∀ problem : Numbers.Problem, Payload.IgnoresSeverity problem) ∧
    (∀ text : String, Payload.IgnoresSeverity text) ∧
    (∀ impossible : Empty, Payload.IgnoresSeverity impossible) ∧
    ∀ (δ : Type) (text : δ → String) (hints : δ → List Note) (error : δ),
      letI : Payload δ := { text, hints }; Payload.IgnoresSeverity error := by
  refine ⟨runsAlike_isInfix, ?_, Numbers.Problem.ignoresSeverity,
    Payload.ignoresSeverity_default _ _, Payload.ignoresSeverity_default _ _,
    fun _ ↦ Payload.ignoresSeverity_default⟩
  intro h heading locate failures
  have halike (isError isError' : Failure ε → Bool) :=
    runsAlike_differInSeverity h isError isError' heading locate failures
  exact ⟨halike, (halike _ _).map_eq fun _ _ hdiffer ↦ hdiffer.sameFindings.escalate_eq⟩

end Diagnostic

end

namespace Diagnostic

/-- A number that is too large beside the warning of another parser, taken for an error and for a
warning. -/
theorem ofFailures_severity_mixed :
    LawfulMonad Id ∧ (∀ problem : Numbers.Problem, Payload.IgnoresSeverity problem) ∧
      DifferInSeverity (ε := Numbers.Problem)
        [.gaveUp 3 [.payload (.tooLarge 30), .nested (.ofReports [.headed .warning none "odd"])]]
        (ofErrors (m := Id) (ε := Numbers.Problem) { headline := "bad" } (fun _ ↦ ⟨⟨1, 4⟩, "a.txt"⟩)
          [.gaveUp 3 [.payload (.tooLarge 30),
            .nested (.ofReports [.headed .warning none "odd"])]])
        (ofWarnings (m := Id) (ε := Numbers.Problem) { headline := "bad" }
          (fun _ ↦ ⟨⟨1, 4⟩, "a.txt"⟩)
          [.gaveUp 3 [.payload (.tooLarge 30),
            .nested (.ofReports [.headed .warning none "odd"])]]) := by
  refine ⟨inferInstance, Numbers.Problem.ignoresSeverity, ?_⟩
  obtain ⟨both, hfirst, hsecond⟩ :=
    ((ofFailures_severity (m := Id)).2.1 Numbers.Problem.ignoresSeverity { headline := "bad" }
      (fun _ ↦ ⟨⟨1, 4⟩, "a.txt"⟩) [.gaveUp 3 [.payload (.tooLarge 30),
        .nested (.ofReports [.headed .warning none "odd"])]]).1 (fun _ ↦ true) fun _ ↦ false
  rw [ofErrors, ofWarnings, ← hfirst, ← hsecond]
  exact both.property

end Diagnostic

end SourceDiagnostics
