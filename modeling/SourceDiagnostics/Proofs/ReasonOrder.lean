import Mathlib.Algebra.GroupWithZero.Nat
import SourceDiagnostics.Proofs.ByteOrder
import SourceDiagnostics.Proofs.DefaultReports
import SourceDiagnostics.Proofs.Reordering

/-!
# Reasons in order

The order into which reasons are put is the same for the description of a failure and for its
reports. Each different reason stands in it once: first the messages, then the indentations, then
the payloads and nested diagnostics, each kind by the bytes of its words, and reasons with the same
words in the order in which they were given. So none is lost to another one that only looks like it.
-/

namespace SourceDiagnostics

open Text

namespace Reason

variable {ε : Type}

/-! ### Kinds and words -/

/-- Reasons in the order of their kinds are messages, then indentations, then all others. -/
theorem exists_kinds {reasons : List (Reason ε)} (h : reasons.Pairwise fun a b ↦ a.rank ≤ b.rank) :
    ∃ messages indentations others, reasons = messages ++ indentations ++ others ∧
      (∀ reason ∈ messages, ∃ text, reason = .message text) ∧
      (∀ reason ∈ indentations, ∃ expected reference actual,
        reason = .indentation expected reference actual) ∧
      ∀ reason ∈ others, (∃ error, reason = .payload error) ∨
        ∃ diagnostic, reason = .nested diagnostic := by
  induction h with
  | nil => exact ⟨[], [], [], rfl, nofun, nofun, nofun⟩
  | @cons reason reasons hreason _ ih =>
    obtain ⟨messages, indentations, others, rfl, hmessages, hindentations, hothers⟩ := ih
    -- No message stands behind a reason of another kind, and no indentation behind one of the last.
    have hnoMessages (hpos : 0 < reason.rank) : messages = [] := by
      apply List.eq_nil_iff_forall_not_mem.mpr
      intro message hmessage
      have hle := hreason message (by simp [hmessage])
      obtain ⟨text, rfl⟩ := hmessages message hmessage
      exact Nat.not_lt_zero _ (Nat.lt_of_lt_of_le hpos hle)
    have hnoIndentations (hpos : 1 < reason.rank) : indentations = [] := by
      apply List.eq_nil_iff_forall_not_mem.mpr
      intro indentation hindentation
      have hle := hreason indentation (by simp [hindentation])
      obtain ⟨expected, reference, actual, rfl⟩ := hindentations indentation hindentation
      exact Nat.lt_irrefl _ (Nat.lt_of_lt_of_le hpos hle)
    cases reason with
    | message text =>
      refine ⟨.message text :: messages, indentations, others, rfl, ?_, hindentations, hothers⟩
      exact List.forall_mem_cons.mpr ⟨⟨text, rfl⟩, hmessages⟩
    | indentation expected reference actual =>
      rw [hnoMessages Nat.one_pos]
      refine ⟨[], .indentation expected reference actual :: indentations, others, rfl, nofun, ?_,
        hothers⟩
      exact List.forall_mem_cons.mpr ⟨⟨expected, reference, actual, rfl⟩, hindentations⟩
    | payload error =>
      rw [hnoMessages Nat.two_pos, hnoIndentations Nat.one_lt_two]
      refine ⟨[], [], .payload error :: others, rfl, nofun, nofun, ?_⟩
      exact List.forall_mem_cons.mpr ⟨.inl ⟨error, rfl⟩, hothers⟩
    | nested diagnostic =>
      rw [hnoMessages Nat.two_pos, hnoIndentations Nat.one_lt_two]
      refine ⟨[], [], .nested diagnostic :: others, rfl, nofun, nofun, ?_⟩
      exact List.forall_mem_cons.mpr ⟨.inr ⟨diagnostic, rfl⟩, hothers⟩

variable [Payload ε]

/-- A reason comes before another one by its kind, or within a kind by the bytes of its words. -/
theorem order_eq_lt_iff {a b : Reason ε} :
    a.order b = .lt ↔
      a.rank < b.rank ∨ a.rank = b.rank ∧ utf8 a.toText.toList < utf8 b.toText.toList := by
  rw [order, compare_then_eq_lt_iff]

/-- Reasons are tied if they are of one kind and have the same words. -/
theorem order_eq_eq_iff {a b : Reason ε} :
    a.order b = .eq ↔ a.rank = b.rank ∧ a.toText = b.toText := by
  rw [order, Ordering.then_eq_eq, Std.compare_eq_iff_eq, Std.compare_eq_iff_eq]

variable [DecidableEq ε]

/-! ### Putting into order -/

private theorem eraseDups_of_nodup {α : Type} [BEq α] [LawfulBEq α] {items : List α}
    (h : items.Nodup) : items.eraseDups = items := by
  induction h with
  | nil => exact List.eraseDups_nil
  | @cons item items hitem _ ih =>
    have hkeep : items.filter (fun b ↦ !b == item) = items := by
      apply List.filter_eq_self.mpr
      intro other hother
      simpa using (hitem other hother).symm
    rw [List.eraseDups_cons, hkeep, ih]

/-- Reasons in order stay as they are. -/
theorem arrange_arrange (reasons : List (Reason ε)) :
    arrange (arrange reasons) = arrange reasons := by
  have hnodup := (isArrangement_arrange reasons).nodup
  conv_lhs => rw [arrange, eraseDups_of_nodup hnodup]
  exact List.mergeSort_of_pairwise (pairwise_isLE_arrange reasons)

/-- A reason stands before another one by its kind, or else by the bytes of its words, or else as it
occurs first. -/
theorem pairwise_arrange (reasons : List (Reason ε)) :
    (arrange reasons).Pairwise fun a b ↦
      a.rank < b.rank ∨ a.rank = b.rank ∧
        (utf8 a.toText.toList < utf8 b.toText.toList ∨
          a.toText = b.toText ∧ reasons.idxOf a < reasons.idxOf b) := by
  apply (isArrangement_arrange reasons).pairwise.imp
  rintro a b (hlt | ⟨htied, hfirst⟩)
  · rcases order_eq_lt_iff.mp hlt with hrank | ⟨hrank, hwords⟩
    · exact .inl hrank
    · exact .inr ⟨hrank, .inl hwords⟩
  · obtain ⟨hrank, hwords⟩ := order_eq_eq_iff.mp htied
    exact .inr ⟨hrank, .inr ⟨hwords, hfirst⟩⟩

end Reason

/-! ### Reports in the order of the reasons -/

variable {ε : Type} [Payload ε] [DecidableEq ε]

/-- The reports of a parser that gave up are what its reasons make of one report, in their order. -/
theorem Failure.reports_toDiagnostic_gaveUp {reasons : List (Reason ε)} (hne : reasons ≠ [])
    (offset : Nat) (severity : Severity) (heading : Heading) (span : Span) :
    ((gaveUp offset reasons).toDiagnostic severity heading span).reports =
      (Reason.arrange reasons).flatMap
        (Reason.reports ((gaveUp offset reasons).defaultReport severity heading span) span) := by
  cases reasons with
  | nil => exact absurd rfl hne
  | cons reason reasons =>
    rw [toDiagnostic_eq_handOut]
    simp only [gaveUp, handOut, Diagnostic.reports_concat, List.flatMap_map, reports_toDiagnostic]

/-- One order serves the description of a failure and its reports. It holds each different reason
once and nothing else, sorts by kind and by the bytes of the words, leaves reasons that neither
tells apart as they first occur, and changes nothing when it is applied again. The description has
the lines of each reason in this order, however many these are, and the reports are what each reason
in this order makes of the failure's report, which has the hints of all of them. -/
theorem Failure.gaveUp_inOrder (reasons : List (Reason ε)) :
    (Reason.arrange reasons).Nodup ∧
    (∀ reason, reason ∈ Reason.arrange reasons ↔ reason ∈ reasons) ∧
    ((Reason.arrange reasons).Pairwise fun a b ↦
      a.rank < b.rank ∨ a.rank = b.rank ∧
        (utf8 a.toText.toList < utf8 b.toText.toList ∨
          a.toText = b.toText ∧ reasons.idxOf a < reasons.idxOf b)) ∧
    (∃ messages indentations others,
      Reason.arrange reasons = messages ++ indentations ++ others ∧
      (∀ reason ∈ messages, ∃ text, reason = .message text) ∧
      (∀ reason ∈ indentations, ∃ expected reference actual,
        reason = .indentation expected reference actual) ∧
      ∀ reason ∈ others, (∃ error, reason = .payload error) ∨
        ∃ diagnostic, reason = .nested diagnostic) ∧
    Reason.arrange (Reason.arrange reasons) = Reason.arrange reasons ∧
    (reasons ≠ [] → ∀ offset,
      (gaveUp offset reasons).description =
        (Reason.arrange reasons).flatMap (fun reason ↦ lines reason.toText) ∧
      (gaveUp offset reasons).description.length =
        ((Reason.arrange reasons).map fun reason ↦ (lines reason.toText).length).sum ∧
      ∀ severity heading span,
        ((gaveUp offset reasons).defaultReport severity heading span).notes =
          (Reason.arrange reasons).flatMap Reason.hints ∧
        ((gaveUp offset reasons).toDiagnostic severity heading span).reports =
          (Reason.arrange reasons).flatMap
            (Reason.reports ((gaveUp offset reasons).defaultReport severity heading span)
              span)) := by
  have harranged := Reason.isArrangement_arrange reasons
  have hranks : (Reason.arrange reasons).Pairwise fun a b ↦ a.rank ≤ b.rank := by
    apply (Reason.pairwise_arrange reasons).imp
    rintro a b (hlt | ⟨heq, -⟩)
    · exact Nat.le_of_lt hlt
    · exact Nat.le_of_eq heq
  refine ⟨harranged.nodup, harranged.mem_iff, Reason.pairwise_arrange reasons,
    Reason.exists_kinds hranks, Reason.arrange_arrange reasons, ?_⟩
  intro hne offset
  have hdescription : (gaveUp offset reasons).description =
      (Reason.arrange reasons).flatMap fun reason ↦ lines reason.toText := by
    show gaveUpLines reasons = _
    rw [gaveUpLines, if_neg (by simpa using hne)]
  refine ⟨hdescription, ?_, fun severity heading span ↦ ⟨rfl, ?_⟩⟩
  · rw [hdescription, List.length_flatMap]
  · exact reports_toDiagnostic_gaveUp hne offset severity heading span

/-- A payload without words, one of two lines and a repeated message. -/
theorem Failure.gaveUp_inOrder_three :
    ([.payload "c\nb", .message "d", .payload "", .message "d"] : List (Reason String)) ≠ [] ∧
      Reason.arrange ([.payload "c\nb", .message "d", .payload "", .message "d"] :
        List (Reason String)) = [.message "d", .payload "", .payload "c\nb"] ∧
      (Failure.gaveUp 3 [.payload "c\nb", .message "d", .payload "", .message "d"] :
        Failure String).description = ["d", "c", "b"] := by
  have hne : ([.payload "c\nb", .message "d", .payload "", .message "d"] :
      List (Reason String)) ≠ [] := List.cons_ne_nil _ _
  have harranged : Reason.arrange ([.payload "c\nb", .message "d", .payload "", .message "d"] :
      List (Reason String)) = [.message "d", .payload "", .payload "c\nb"] := by
    symm
    apply Reason.isArrangement_iff.mp
    refine ⟨?_, by decide⟩
    intro reason
    simp only [List.mem_cons, List.not_mem_nil, or_false]
    grind
  obtain ⟨hdescription, -⟩ := (gaveUp_inOrder _).2.2.2.2.2 hne 3
  refine ⟨hne, harranged, ?_⟩
  rw [hdescription, harranged]
  decide

end SourceDiagnostics
