import SourceDiagnostics.Proofs.Conversion

/-!
# Reasons given in another way

A parser that gives up may give its reasons in any order and more than once. The description of its
failure does not show in which way, as reasons that are put into order alike are also worded alike.
The reports do not show it either, unless different reasons of one kind have the same words: these
stay in the order in which they were given.
-/

namespace SourceDiagnostics

variable {ε : Type} [Payload ε]

namespace Reason

/-! ### Putting the same reasons into order -/

/-- The kind and the words of a reason, by which reasons are put into order. -/
def key (reason : Reason ε) : Nat × String := (reason.rank, reason.toText)

/-- Whether no two different reasons of a list are of one kind with the same words. -/
def AreToldApart (reasons : List (Reason ε)) : Prop :=
  ∀ a ∈ reasons, ∀ b ∈ reasons, a.rank = b.rank → a.toText = b.toText → a = b

theorem key_eq_of_isLE {a b : Reason ε} (hab : (a.order b).isLE = true)
    (hba : (b.order a).isLE = true) : a.key = b.key := by
  have htied : a.order b = .eq := by
    rw [order_swap] at hba
    cases h : a.order b with
    | eq => rfl
    | lt =>
      rw [h] at hba
      cases hba
    | gt =>
      rw [h] at hab
      cases hab
  rw [order, Ordering.then_eq_eq, Std.compare_eq_iff_eq, Std.compare_eq_iff_eq] at htied
  rw [key, key, htied.1, htied.2]

variable [DecidableEq ε]

theorem pairwise_isLE_arrange (reasons : List (Reason ε)) :
    (arrange reasons).Pairwise fun a b ↦ (a.order b).isLE = true := by
  apply (isArrangement_arrange reasons).pairwise.imp
  rintro a b (h | ⟨h, -⟩)
  · rw [h]
    rfl
  · rw [h]
    rfl

/-- The same reasons, put into order, are the same up to the order of those that are tied. -/
theorem arrange_perm_arrange {first second : List (Reason ε)}
    (h : ∀ reason, reason ∈ first ↔ reason ∈ second) : (arrange first).Perm (arrange second) := by
  have hfirst := isArrangement_arrange first
  have hsecond := isArrangement_arrange second
  apply (List.perm_ext_iff_of_nodup hfirst.nodup hsecond.nodup).mpr
  intro reason
  rw [hfirst.mem_iff, hsecond.mem_iff, h]

private theorem pairwise_key_arrange (reasons : List (Reason ε)) :
    ((arrange reasons).map key).Pairwise fun a b ↦
      ((compare a.1 b.1).then (compare a.2 b.2)).isLE = true := by
  rw [List.pairwise_map]
  exact pairwise_isLE_arrange reasons

/-- The same reasons are put into order with the same words, even where some of them are tied. -/
theorem map_toText_arrange {first second : List (Reason ε)}
    (h : ∀ reason, reason ∈ first ↔ reason ∈ second) :
    (arrange first).map toText = (arrange second).map toText := by
  -- Tied reasons may stand the other way round in the two arrangements, but their keys are equal.
  have hkeys : (arrange first).map key = (arrange second).map key := by
    refine List.Perm.eq_of_pairwise ?_ (pairwise_key_arrange first) (pairwise_key_arrange second)
      ((arrange_perm_arrange h).map key)
    intro a b ha hb hab hba
    obtain ⟨reason, -, rfl⟩ := List.mem_map.mp ha
    obtain ⟨other, -, rfl⟩ := List.mem_map.mp hb
    exact key_eq_of_isLE hab hba
  have htexts := congrArg (List.map Prod.snd) hkeys
  rw [List.map_map, List.map_map] at htexts
  exact htexts

/-- The same reasons have one arrangement if none of them are tied. -/
theorem arrange_eq_arrange {first second : List (Reason ε)}
    (h : ∀ reason, reason ∈ first ↔ reason ∈ second) (hapart : AreToldApart first) :
    arrange first = arrange second := by
  refine List.Perm.eq_of_pairwise ?_ (pairwise_isLE_arrange first) (pairwise_isLE_arrange second)
    (arrange_perm_arrange h)
  intro a b ha hb hab hba
  have ha' : a ∈ first := ((isArrangement_arrange first).mem_iff a).mp ha
  have hb' : b ∈ first := (h b).mpr (((isArrangement_arrange second).mem_iff b).mp hb)
  obtain ⟨hrank, htext⟩ := Prod.mk.inj (key_eq_of_isLE hab hba)
  exact hapart a ha' b hb' hrank htext

end Reason

/-! ### The same reasons in failures -/

variable [DecidableEq ε]

private theorem eq_nil_iff_of_mem_iff {α : Type} {first second : List α}
    (h : ∀ a, a ∈ first ↔ a ∈ second) : first = [] ↔ second = [] := by
  rw [List.eq_nil_iff_forall_not_mem, List.eq_nil_iff_forall_not_mem]
  simp only [h]

namespace Failure

/-- A failure is described alike for the same reasons. -/
theorem description_gaveUp_congr {first second : List (Reason ε)} (offset : Nat)
    (h : ∀ reason, reason ∈ first ↔ reason ∈ second) :
    (gaveUp offset first).description = (gaveUp offset second).description := by
  have hnil := eq_nil_iff_of_mem_iff h
  show gaveUpLines first = gaveUpLines second
  unfold gaveUpLines
  by_cases hfirst : first = []
  · rw [hfirst, hnil.mp hfirst]
  · have hsecond : second ≠ [] := fun hn ↦ hfirst (hnil.mpr hn)
    rw [if_neg (by simpa using hfirst), if_neg (by simpa using hsecond),
      ← List.flatMap_map (f := Reason.toText) (g := Text.lines), Reason.map_toText_arrange h,
      List.flatMap_map]

/-- A failure contributes the same for the same reasons if none of them are tied. -/
theorem toDiagnostic_gaveUp_congr {first second : List (Reason ε)} (offset : Nat)
    (h : ∀ reason, reason ∈ first ↔ reason ∈ second) (hapart : Reason.AreToldApart first)
    (severity : Severity) (heading : Heading) (span : Span) :
    (gaveUp offset first).toDiagnostic severity heading span =
      (gaveUp offset second).toDiagnostic severity heading span := by
  have hnil := eq_nil_iff_of_mem_iff h
  have hreport : (gaveUp offset first).bareReport severity heading span =
      (gaveUp offset second).bareReport severity heading span := by
    unfold bareReport
    rw [description_gaveUp_congr offset h]
  have harrange := Reason.arrange_eq_arrange h hapart
  cases first with
  | nil => rw [hnil.mp rfl]
  | cons reason reasons =>
    cases second with
    | nil => exact absurd (hnil.mpr rfl) (List.cons_ne_nil reason reasons)
    | cons other others =>
      unfold toDiagnostic
      rw [hreport]
      simp only [gaveUp, harrange]

end Failure

/-- Whether reasons are given in one way or another makes no difference to the description of a
failure. It makes none to a diagnostic either, wherever the failure stands among others, as long as
the reasons are told apart by their kinds and words and the failure counts as an error in both
cases or in none. -/
theorem Diagnostic.ofFailures_reorder {m : Type → Type} [Monad m] [LawfulMonad m]
    {first second : List (Reason ε)} (offset : Nat)
    (h : ∀ reason, reason ∈ first ↔ reason ∈ second) :
    (Failure.gaveUp offset first).description = (Failure.gaveUp offset second).description ∧
      (Reason.AreToldApart first →
        ∀ (isError : Failure ε → Bool) (heading : Heading) (locate : Nat → m Location)
          (before behind : List (Failure ε)),
          isError (.gaveUp offset first) = isError (.gaveUp offset second) →
            ofFailures isError heading locate (before ++ .gaveUp offset first :: behind) =
              ofFailures isError heading locate (before ++ .gaveUp offset second :: behind)) := by
  refine ⟨Failure.description_gaveUp_congr offset h, ?_⟩
  intro hapart isError heading locate before behind herror
  unfold ofFailures
  rw [List.mapM_append, List.mapM_append, List.mapM_cons, List.mapM_cons]
  simp only [herror, Failure.toDiagnostic_gaveUp_congr offset h hapart]
  rfl

/-- Two reasons, the other way round and one of them twice. -/
theorem Diagnostic.ofFailures_reorder_two :
    LawfulMonad Id ∧
      (∀ reason : Reason String, reason ∈ [.payload "b", .message "a"] ↔
        reason ∈ [.message "a", .payload "b", .message "a"]) ∧
      Reason.AreToldApart ([.payload "b", .message "a"] : List (Reason String)) ∧
      (Failure.gaveUp 3 [.payload "b", .message "a"] : Failure String).description =
        (Failure.gaveUp 3 [.message "a", .payload "b", .message "a"]).description ∧
      ofFailures (m := Id) (fun _ : Failure String ↦ true) { headline := "bad input" }
          (fun _ ↦ ⟨⟨1, 4⟩, "a.txt"⟩) [.gaveUp 3 [.payload "b", .message "a"]] =
        ofFailures (m := Id) (fun _ : Failure String ↦ true) { headline := "bad input" }
          (fun _ ↦ ⟨⟨1, 4⟩, "a.txt"⟩) [.gaveUp 3 [.message "a", .payload "b", .message "a"]] := by
  have h : ∀ reason : Reason String, reason ∈ [.payload "b", .message "a"] ↔
      reason ∈ [.message "a", .payload "b", .message "a"] := by
    intro reason
    simp only [List.mem_cons, List.not_mem_nil, or_false]
    grind
  have hapart : Reason.AreToldApart ([.payload "b", .message "a"] : List (Reason String)) := by
    simp [Reason.AreToldApart, Reason.rank]
  obtain ⟨hdescription, hreports⟩ := ofFailures_reorder (m := Id) 3 h
  exact ⟨inferInstance, h, hapart, hdescription, hreports hapart _ _ _ [] [] rfl⟩

end SourceDiagnostics
