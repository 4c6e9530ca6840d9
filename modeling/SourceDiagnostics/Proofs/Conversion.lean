import Mathlib.Data.List.Forall2
import SourceDiagnostics.Failure.Conversion
import SourceDiagnostics.Numbers.Problem
import SourceDiagnostics.Proofs.Arrangement

/-!
# What failures contribute

The diagnostic of failures is put together from what each failure contributes, once it is known
where the failure lies. The rules for a contribution are stated here on their own, and the
conversion is shown to follow them, in any setting in which failures are located.
-/

namespace SourceDiagnostics

variable {ε : Type} [Payload ε]

/-! ### The rules -/

/-- The markers of a description at a span. -/
inductive Marks (span : Span) : List String → List MarkedSpan → Prop
  | one (only : String) : Marks span [only] [⟨span, ⟨.primary, only⟩⟩]
  | two (first second : String) :
    Marks span [first, second] [⟨span, ⟨.primary, first⟩⟩, ⟨span, ⟨.secondary, second⟩⟩]
  | unfit {lines : List String} (hone : lines.length ≠ 1) (htwo : lines.length ≠ 2) :
    Marks span lines [⟨span, ⟨.primary, "<<Unknown error>>"⟩⟩]

/-- The reports that a reason makes of the report of its failure. -/
def Reason.reports (report : Report) (span : Span) : Reason ε → List Report
  | .message _ => [report]
  | .indentation .. => [report]
  | .payload error => Payload.reshape error [report] span
  | .nested diagnostic => diagnostic.reports

/-- The diagnostic whose files a reason brings along. -/
def Reason.nested? : Reason ε → Option Diagnostic
  | .nested diagnostic => some diagnostic
  | _ => none

/-- The error of the parser's own kind that a reason carries. -/
def Reason.payload? : Reason ε → Option ε
  | .payload error => some error
  | _ => none

section

variable [DecidableEq ε]

/-- The report of a failure at a span with some notes, before a payload changes it. -/
structure IsDefaultReport (isError : Failure ε → Bool) (heading : Heading) (failure : Failure ε)
    (span : Span) (notes : List Note) (report : Report) : Prop where
  severity : report.severity = if isError failure then .error else .warning
  code : report.code = heading.code
  headline : report.headline = heading.headline
  annotations : Marks span failure.description report.annotations
  notes : report.notes = notes

/-- The reports that a failure at a span contributes, and the diagnostics whose files it brings
along. The report of a parser that gave up has the hints of all its reasons before any of them
decides what becomes of it. -/
inductive Contributes (isError : Failure ε → Bool) (heading : Heading) (span : Span) :
    Failure ε → List Report → List Diagnostic → Prop
  | mismatch {offset : Nat} {unexpected : Option Item} {expected : ItemSet} {report : Report}
      (hreport : IsDefaultReport isError heading ⟨offset, .mismatch unexpected expected⟩ span
        heading.notes report) :
    Contributes isError heading span ⟨offset, .mismatch unexpected expected⟩ [report] []
  | unexplained {offset : Nat} {report : Report}
      (hreport : IsDefaultReport isError heading ⟨offset, .gaveUp []⟩ span [] report) :
    Contributes isError heading span ⟨offset, .gaveUp []⟩ [report] []
  | gaveUp {offset : Nat} {reasons arranged : List (Reason ε)} {report : Report}
      (hne : reasons ≠ []) (harranged : Reason.IsArrangement reasons arranged)
      (hreport : IsDefaultReport isError heading ⟨offset, .gaveUp reasons⟩ span
        ((arranged.filterMap Reason.payload?).flatMap Payload.hints) report) :
    Contributes isError heading span ⟨offset, .gaveUp reasons⟩
      (arranged.flatMap (Reason.reports report span)) (arranged.filterMap Reason.nested?)

/-- The diagnostic of failures that have been located. -/
def Diagnostic.ofLocated (isError : Failure ε → Bool) (heading : Heading)
    (located : List (Failure ε × Location)) : Diagnostic :=
  concat (located.map fun (failure, location) ↦
    failure.toDiagnostic (if isError failure then .error else .warning) heading (.point location))

end

/-! ### Joining diagnostics -/

namespace Diagnostic

private theorem reports_foldl (diagnostics : List Diagnostic) (start : Diagnostic) :
    (diagnostics.foldl (· ++ ·) start).reports =
      start.reports ++ diagnostics.flatMap Diagnostic.reports := by
  induction diagnostics generalizing start with
  | nil => simp
  | cons diagnostic diagnostics ih =>
    rw [List.foldl_cons, ih, reports_append, List.flatMap_cons, List.append_assoc]

/-- Joined diagnostics have their reports one after the other. -/
theorem reports_concat (diagnostics : List Diagnostic) :
    (concat diagnostics).reports = diagnostics.flatMap Diagnostic.reports := by
  rw [concat, reports_foldl, reports_empty, List.nil_append]

private theorem file?_foldl (diagnostics : List Diagnostic) (start : Diagnostic) (name : String) :
    (diagnostics.foldl (· ++ ·) start).file? name =
      (diagnostics.reverse.findSome? (·.file? name)).or (start.file? name) := by
  induction diagnostics generalizing start with
  | nil => simp
  | cons diagnostic diagnostics ih =>
    rw [List.foldl_cons, ih, file?_append, List.reverse_cons, List.findSome?_append,
      List.findSome?_singleton, Option.or_assoc]

theorem file?_empty (name : String) : (∅ : Diagnostic).file? name = none :=
  Std.ExtTreeMap.getElem?_empty

theorem file?_ofReports (reports : List Report) (name : String) :
    (ofReports reports).file? name = none :=
  Std.ExtTreeMap.getElem?_empty

/-- A file of joined diagnostics is that of the last one to have it. -/
theorem file?_concat (diagnostics : List Diagnostic) (name : String) :
    (concat diagnostics).file? name = diagnostics.reverse.findSome? (·.file? name) := by
  rw [concat, file?_foldl, file?_empty, Option.or_none]

end Diagnostic

/-! ### Contributions -/

private theorem marks_markersOf (span : Span) (lines : List String) :
    Marks span lines ((markersOf lines).map (⟨span, ·⟩)) := by
  match lines with
  | [] => exact .unfit (by simp) (by simp)
  | [only] => exact .one only
  | [first, second] => exact .two first second
  | _ :: _ :: _ :: _ => exact .unfit (by simp) (by simp)

/-- A text that begins in another way is not the message for what does not fit. -/
theorem append_ne_unknownError {front : String} {c : Char} {rest : List Char}
    (back : String) (h : front.toList = c :: rest) (hc : c ≠ '<') :
    front ++ back ≠ "<<Unknown error>>" := by
  intro he
  have hchars := congrArg String.toList he
  rw [String.toList_append, h] at hchars
  exact hc (List.cons.inj hchars).1

theorem reports_toDiagnostic (report : Report) (span : Span) (reason : Reason ε) :
    (reason.toDiagnostic report span).reports = reason.reports report span := by
  cases reason <;> rfl

private theorem file?_toDiagnostic (report : Report) (span : Span) (reason : Reason ε)
    (name : String) :
    (reason.toDiagnostic report span).file? name = reason.nested?.bind (·.file? name) := by
  cases reason with
  | nested diagnostic => rfl
  | _ => exact Diagnostic.file?_ofReports _ name

private theorem findSome?_file?_toDiagnostic (report : Report) (span : Span) (name : String)
    (reasons : List (Reason ε)) :
    reasons.findSome? (fun reason ↦ (reason.toDiagnostic report span).file? name) =
      (reasons.filterMap Reason.nested?).findSome? (·.file? name) := by
  induction reasons with
  | nil => rfl
  | cons reason reasons ih =>
    rw [List.findSome?_cons, file?_toDiagnostic, ih]
    cases h : reason.nested? with
    | none => rw [List.filterMap_cons_none h, Option.bind_none]
    | some diagnostic => rw [List.filterMap_cons_some h, List.findSome?_cons, Option.bind_some]

/-- The hints of reasons are those of the payloads that they carry. -/
theorem flatMap_hints (reasons : List (Reason ε)) :
    reasons.flatMap Reason.hints = (reasons.filterMap Reason.payload?).flatMap Payload.hints := by
  induction reasons with
  | nil => rfl
  | cons reason reasons ih =>
    rw [List.flatMap_cons, ih]
    cases reason with
    | payload error => rfl
    | _ => exact List.nil_append _

variable [DecidableEq ε]

private theorem isDefaultReport_bareReport (isError : Failure ε → Bool) (heading : Heading)
    (failure : Failure ε) (span : Span) (notes : List Note) :
    IsDefaultReport isError heading failure span notes
      ((failure.bareReport (if isError failure then .error else .warning) heading span).addNotes
        notes) where
  severity := rfl
  code := rfl
  headline := rfl
  annotations := marks_markersOf span failure.description
  notes := rfl

/-- What a failure contributes follows the rules. -/
theorem contributes_toDiagnostic (isError : Failure ε → Bool) (heading : Heading) (span : Span)
    (failure : Failure ε) :
    ∃ reports nested, Contributes isError heading span failure reports nested ∧
      (failure.toDiagnostic (if isError failure then .error else .warning) heading span).reports =
        reports ∧
      ∀ name, (failure.toDiagnostic (if isError failure then .error else .warning) heading
        span).file? name = nested.reverse.findSome? (·.file? name) := by
  obtain ⟨offset, cause⟩ := failure
  match cause with
  | .mismatch unexpected expected =>
    refine ⟨_, _, .mismatch (isDefaultReport_bareReport isError heading _ span heading.notes),
      rfl, ?_⟩
    exact fun name ↦ Diagnostic.file?_ofReports _ name
  | .gaveUp [] =>
    refine ⟨_, _, .unexplained (isDefaultReport_bareReport isError heading _ span []), rfl, ?_⟩
    exact fun name ↦ Diagnostic.file?_ofReports _ name
  | .gaveUp (reason :: reasons) =>
    have hreport := isDefaultReport_bareReport isError heading ⟨offset, .gaveUp (reason :: reasons)⟩
      span ((Reason.arrange (reason :: reasons)).flatMap Reason.hints)
    rw [flatMap_hints] at hreport
    refine ⟨_, _, .gaveUp (List.cons_ne_nil reason reasons) (Reason.isArrangement_arrange _)
      hreport, ?_, ?_⟩
    · simp only [Failure.toDiagnostic, Diagnostic.reports_concat, List.flatMap_map,
        reports_toDiagnostic, flatMap_hints]
    · intro name
      simp only [Failure.toDiagnostic, Diagnostic.file?_concat]
      rw [← List.map_reverse, List.findSome?_map, ← List.filterMap_reverse]
      exact findSome?_file?_toDiagnostic _ span name _

/-! ### Locating failures -/

private theorem mapM_then {α β γ : Type} {m : Type → Type} [Monad m] [LawfulMonad m]
    (f : α → m β) (g : α → β → γ) (items : List α) :
    (items.mapM fun item ↦ do
        let found ← f item
        return g item found) =
      (fun pairs ↦ pairs.map fun (item, found) ↦ g item found) <$>
        items.mapM fun item ↦ do
          let found ← f item
          return (item, found) := by
  induction items with
  | nil => simp
  | cons item items ih =>
    rw [List.mapM_cons, List.mapM_cons, ih]
    simp

/-- Converting failures is locating them in their order and then converting them where they lie. -/
theorem Diagnostic.ofFailures_eq {m : Type → Type} [Monad m] [LawfulMonad m]
    (isError : Failure ε → Bool) (heading : Heading) (locate : Nat → m Location)
    (failures : List (Failure ε)) :
    ofFailures isError heading locate failures = do
      let located ← failures.mapM fun failure ↦ do
        let location ← locate failure.offset
        return (failure, location)
      return ofLocated isError heading located := by
  rw [ofFailures, mapM_then]
  simp [ofLocated]

/-- The reports of the first located failure come first. -/
theorem Diagnostic.reports_ofLocated_cons (isError : Failure ε → Bool) (heading : Heading)
    (failure : Failure ε) (location : Location) (located : List (Failure ε × Location)) :
    (ofLocated isError heading ((failure, location) :: located)).reports =
      (failure.toDiagnostic (if isError failure then .error else .warning) heading
        (.point location)).reports ++ (ofLocated isError heading located).reports := by
  rw [ofLocated, ofLocated, reports_concat, reports_concat, List.map_cons, List.flatMap_cons]

/-- The files of the first located failure give way to those of the others. -/
theorem Diagnostic.file?_ofLocated_cons (isError : Failure ε → Bool) (heading : Heading)
    (failure : Failure ε) (location : Location) (located : List (Failure ε × Location))
    (name : String) :
    (ofLocated isError heading ((failure, location) :: located)).file? name =
      ((ofLocated isError heading located).file? name).or
        ((failure.toDiagnostic (if isError failure then .error else .warning) heading
          (.point location)).file? name) := by
  rw [ofLocated, ofLocated, file?_concat, file?_concat, List.map_cons, List.reverse_cons,
    List.findSome?_append, List.findSome?_singleton]

/-- What located failures contribute follows the rules, and their diagnostic is put together from
it: the reports one after the other, and each file as the last one to have it has it. -/
theorem Diagnostic.contributes_ofLocated (isError : Failure ε → Bool) (heading : Heading)
    (located : List (Failure ε × Location)) :
    ∃ parts : List (List Report × List Diagnostic),
      List.Forall₂ (fun (failure, location) (reports, nested) ↦
        Contributes isError heading (.point location) failure reports nested) located parts ∧
      (ofLocated isError heading located).reports = parts.flatMap Prod.fst ∧
      ∀ name, (ofLocated isError heading located).file? name =
        (parts.flatMap Prod.snd).reverse.findSome? (·.file? name) := by
  induction located with
  | nil => exact ⟨[], .nil, rfl, file?_empty⟩
  | cons head located ih =>
    obtain ⟨failure, location⟩ := head
    obtain ⟨parts, hparts, hreports, hfiles⟩ := ih
    obtain ⟨reports, nested, hhead, hheadReports, hheadFiles⟩ :=
      contributes_toDiagnostic isError heading (.point location) failure
    refine ⟨(reports, nested) :: parts, .cons hhead hparts, ?_, ?_⟩
    · rw [reports_ofLocated_cons, hheadReports, hreports, List.flatMap_cons]
    · intro name
      rw [file?_ofLocated_cons, hfiles, hheadFiles, List.flatMap_cons, List.reverse_append,
        List.findSome?_append]

/-- Failures are located once each, in their order, whatever else locating them does. The reports
of their diagnostic are what each failure contributes at the one character where it lies, one
contribution after the other, and a file is that of the last diagnostic that brings it along. -/
theorem ofFailures_contributes {m : Type → Type} [Monad m] [LawfulMonad m]
    (isError : Failure ε → Bool) (heading : Heading) (locate : Nat → m Location)
    (failures : List (Failure ε)) :
    Diagnostic.ofFailures isError heading locate failures =
        (do
          let located ← failures.mapM fun failure ↦ do
            let location ← locate failure.offset
            return (failure, location)
          return Diagnostic.ofLocated isError heading located) ∧
      ∀ located : List (Failure ε × Location),
        ∃ parts : List (List Report × List Diagnostic),
          List.Forall₂ (fun (failure, location) (reports, nested) ↦
            Contributes isError heading (.point location) failure reports nested) located parts ∧
          (Diagnostic.ofLocated isError heading located).reports = parts.flatMap Prod.fst ∧
          ∀ name, (Diagnostic.ofLocated isError heading located).file? name =
            (parts.flatMap Prod.snd).reverse.findSome? (·.file? name) :=
  ⟨Diagnostic.ofFailures_eq isError heading locate failures,
    Diagnostic.contributes_ofLocated isError heading⟩

/-- Locating that writes down the offsets it is asked about is asked about each failure once, and
there is a report, with its notes, for each way of failing. -/
theorem ofFailures_contributes_recorded :
    LawfulMonad (StateM (List Nat)) ∧
      ((Diagnostic.ofFailures (m := StateM (List Nat)) Failure.isMismatch
        { headline := "bad input", code := some "E1", notes := [⟨.note, "see the manual"⟩] }
        (fun offset ↦ do
          modify (· ++ [offset])
          return ⟨⟨1, .ofNat (offset + 1)⟩, "a.txt"⟩)
        [.payload 7 (Numbers.Problem.strayCharacter '!'), .mismatch 2 (some (.label "x")) [],
          .gaveUp 4 [],
          .nested 7 ⟨[.headed .warning none "inner"], .ofList [("f", "old"), ("g", "")]⟩,
          .nested 9 ⟨[], .ofList [("f", "new")]⟩]).run []).run =
        (⟨[⟨.warning, some "E1001", "bad input",
            [⟨⟨⟨1, 8⟩, ⟨1, 9⟩, "a.txt"⟩, ⟨.primary, "unexpected '!' in number"⟩⟩],
            [⟨.hint, "numbers may only contain the digits 0-9; separate numbers with whitespace"⟩]⟩,
          ⟨.error, some "E1", "bad input",
            [⟨⟨⟨1, 3⟩, ⟨1, 4⟩, "a.txt"⟩, ⟨.primary, "unexpected x"⟩⟩],
            [⟨.note, "see the manual"⟩]⟩,
          ⟨.warning, some "E1", "bad input",
            [⟨⟨⟨1, 5⟩, ⟨1, 6⟩, "a.txt"⟩, ⟨.primary, "unknown fancy parse error"⟩⟩], []⟩,
          .headed .warning none "inner"],
          .ofList [("f", "new"), ("g", "")]⟩, [7, 2, 4, 7, 9]) := by
  refine ⟨inferInstance, ?_⟩
  rw [(ofFailures_contributes (m := StateM (List Nat)) _ _ _ _).1]
  decide +kernel

end SourceDiagnostics
