import SourceDiagnostics.Proofs.Conversion

/-!
# Diagnostics as a monoid

Joining diagnostics is associative, and the empty diagnostic is neutral on both sides. Making
errors of all reports goes through a join, and so does converting failures: two lists of failures
one after the other have the diagnostics of both, joined. Failures that hand on the diagnostic of
another parser are converted to these diagnostics, joined in their order, whatever is set for
failures in general.
-/

namespace SourceDiagnostics

namespace Diagnostic

/-! ### The laws of joining -/

/-- Diagnostics with the same reports and the same contents of every file are equal. -/
@[ext] theorem ext_file? {first second : Diagnostic} (hreports : first.reports = second.reports)
    (hfiles : ∀ name, first.file? name = second.file? name) : first = second := by
  obtain ⟨reports, files⟩ := first
  obtain ⟨reports', files'⟩ := second
  obtain rfl : reports = reports' := hreports
  obtain rfl : files = files' := Std.ExtTreeMap.ext_getElem? fun {name} ↦ hfiles name
  rfl

theorem append_assoc (first second third : Diagnostic) :
    first ++ second ++ third = first ++ (second ++ third) := by
  ext name : 1
  · simp only [reports_append, List.append_assoc]
  · simp only [file?_append, Option.or_assoc]

@[simp] theorem empty_append (diagnostic : Diagnostic) : ∅ ++ diagnostic = diagnostic := by
  ext name : 1
  · rw [reports_append, reports_empty, List.nil_append]
  · rw [file?_append, file?_empty, Option.or_none]

@[simp] theorem append_empty (diagnostic : Diagnostic) : diagnostic ++ ∅ = diagnostic := by
  ext name : 1
  · rw [reports_append, reports_empty, List.append_nil]
  · rw [file?_append, file?_empty, Option.none_or]

instance : Std.Associative (HAppend.hAppend : Diagnostic → Diagnostic → Diagnostic) :=
  ⟨append_assoc⟩

instance : Std.LawfulIdentity (HAppend.hAppend : Diagnostic → Diagnostic → Diagnostic) ∅ where
  left_id := empty_append
  right_id := append_empty

/-- Making errors of the reports leaves the files alone. -/
@[simp] theorem file?_escalate (diagnostic : Diagnostic) (name : String) :
    diagnostic.escalate.file? name = diagnostic.file? name := rfl

theorem escalate_append (first second : Diagnostic) :
    (first ++ second).escalate = first.escalate ++ second.escalate := by
  ext name : 1
  · simp only [reports_append, reports_escalate, List.map_append]
  · simp only [file?_append, file?_escalate]

theorem escalate_escalate (diagnostic : Diagnostic) :
    diagnostic.escalate.escalate = diagnostic.escalate := by
  ext name : 1
  · simp only [reports_escalate, List.map_map, Function.comp_def, Report.withSeverity_withSeverity]
  · rfl

/-! ### Joining lists of diagnostics -/

theorem concat_cons (diagnostic : Diagnostic) (diagnostics : List Diagnostic) :
    concat (diagnostic :: diagnostics) = diagnostic ++ concat diagnostics := by
  calc concat (diagnostic :: diagnostics)
    _ = diagnostics.foldl (· ++ ·) (diagnostic ++ ∅) := by
      rw [concat, List.foldl_cons, empty_append, append_empty]
    _ = diagnostic ++ concat diagnostics := List.foldl_assoc

theorem concat_singleton (diagnostic : Diagnostic) : concat [diagnostic] = diagnostic :=
  empty_append diagnostic

theorem concat_append (front back : List Diagnostic) :
    concat (front ++ back) = concat front ++ concat back := by
  induction front with
  | nil => exact (empty_append _).symm
  | cons diagnostic front ih => rw [List.cons_append, concat_cons, concat_cons, ih, append_assoc]

end Diagnostic

/-! ### Converting joined failures -/

variable {ε : Type} [Payload ε] [DecidableEq ε]

/-- A failure that hands on a diagnostic contributes it as it is. -/
theorem Failure.toDiagnostic_nested (offset : Nat) (diagnostic : Diagnostic) (severity : Severity)
    (heading : Heading) (span : Span) :
    (Failure.nested offset diagnostic : Failure ε).toDiagnostic severity heading span =
      diagnostic := by
  simp only [nested, gaveUp, toDiagnostic, Reason.arrange_singleton]
  exact Diagnostic.concat_singleton diagnostic

namespace Diagnostic

variable {m : Type → Type} [Monad m] [LawfulMonad m]

/-- The first failure is located and converted before the others. -/
theorem ofFailures_cons (isError : Failure ε → Bool) (heading : Heading)
    (locate : Nat → m Location) (failure : Failure ε) (failures : List (Failure ε)) :
    ofFailures isError heading locate (failure :: failures) = do
      let location ← locate failure.offset
      let others ← ofFailures isError heading locate failures
      return failure.toDiagnostic (if isError failure then .error else .warning) heading
        (.point location) ++ others := by
  simp [ofFailures, List.mapM_cons, concat_cons]

/-- Failures one after the other have the diagnostics of both lists, joined. -/
theorem ofFailures_append (isError : Failure ε → Bool) (heading : Heading)
    (locate : Nat → m Location) (first second : List (Failure ε)) :
    ofFailures isError heading locate (first ++ second) = do
      let front ← ofFailures isError heading locate first
      let back ← ofFailures isError heading locate second
      return front ++ back := by
  simp [ofFailures, List.mapM_append, concat_append]

/-- Failures that hand on diagnostics are located like others, but have these diagnostics, joined
in their order. -/
theorem ofFailures_nested (isError : Failure ε → Bool) (heading : Heading)
    (locate : Nat → m Location) (handed : List (Nat × Diagnostic)) :
    ofFailures isError heading locate
        (handed.map fun (offset, diagnostic) ↦ .nested offset diagnostic) = do
      let _ ← handed.mapM fun (offset, _) ↦ locate offset
      return concat (handed.map Prod.snd) := by
  induction handed with
  | nil => simp [ofFailures]
  | cons head handed ih =>
    rw [List.map_cons, ofFailures_cons, ih, List.mapM_cons, List.map_cons, concat_cons]
    simp only [Failure.toDiagnostic_nested, bind_assoc, pure_bind]
    rfl

/-- Diagnostics are a monoid under joining, and making errors of all reports goes through a join
and does nothing the second time. Converting failures goes through appending them: what comes of
two lists one after the other is the join of what comes of each. Failures that hand on diagnostics,
of which some may be equal, come to these diagnostics joined in their order, with their reports and
files as they are. -/
theorem ofFailures_respects_joining :
    ((∀ first second third : Diagnostic, first ++ second ++ third = first ++ (second ++ third)) ∧
      ∀ diagnostic : Diagnostic, ∅ ++ diagnostic = diagnostic ∧ diagnostic ++ ∅ = diagnostic) ∧
    ((∀ first second : Diagnostic,
        (first ++ second).escalate = first.escalate ++ second.escalate) ∧
      ∀ diagnostic : Diagnostic, diagnostic.escalate.escalate = diagnostic.escalate) ∧
    ∀ (isError : Failure ε → Bool) (heading : Heading) (locate : Nat → m Location),
      (∀ first second : List (Failure ε),
        ofFailures isError heading locate (first ++ second) = do
          let front ← ofFailures isError heading locate first
          let back ← ofFailures isError heading locate second
          return front ++ back) ∧
      ∀ handed : List (Nat × Diagnostic),
        ofFailures isError heading locate
            (handed.map fun (offset, diagnostic) ↦ .nested offset diagnostic) = do
          let _ ← handed.mapM fun (offset, _) ↦ locate offset
          return (handed.map Prod.snd).foldl (· ++ ·) ∅ := by
  refine ⟨⟨append_assoc, ?_⟩, ⟨escalate_append, escalate_escalate⟩, ?_⟩
  · exact fun diagnostic ↦ ⟨empty_append diagnostic, append_empty diagnostic⟩
  · intro isError heading locate
    exact ⟨ofFailures_append isError heading locate, ofFailures_nested isError heading locate⟩

/-- A warning that is handed on twice, under a heading and a severity of its own. -/
theorem ofFailures_respects_joining_twice :
    LawfulMonad Id ∧
      ofFailures (m := Id) (fun _ : Failure String ↦ true)
          { headline := "bad input", code := some "E1" } (fun _ ↦ ⟨⟨1, 1⟩, "a.txt"⟩)
          [.nested 4 ⟨[.headed .warning none "odd"], .ofList [("b.txt", "1")]⟩,
            .nested 2 ⟨[.headed .warning none "odd"], .ofList [("b.txt", "1")]⟩] =
        ⟨[.headed .warning none "odd", .headed .warning none "odd"], .ofList [("b.txt", "1")]⟩ := by
  refine ⟨inferInstance, ?_⟩
  have h := ((ofFailures_respects_joining (m := Id) (ε := String)).2.2 (fun _ ↦ true)
    { headline := "bad input", code := some "E1" } (fun _ ↦ ⟨⟨1, 1⟩, "a.txt"⟩)).2
    [(4, ⟨[.headed .warning none "odd"], .ofList [("b.txt", "1")]⟩),
      (2, ⟨[.headed .warning none "odd"], .ofList [("b.txt", "1")]⟩)]
  refine h.trans ?_
  rfl

end Diagnostic

end SourceDiagnostics
