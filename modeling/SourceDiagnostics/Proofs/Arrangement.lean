import SourceDiagnostics.Failure.Description

/-!
# The order of reasons

Putting reasons into order keeps each different reason once, sorts by kind and words, and leaves
reasons that neither tells apart in the order in which they first occur. There is only one such
list (`IsArrangement.unique`), so whoever puts reasons into order comes to the same one.
-/

namespace SourceDiagnostics.Reason

/-! ### First occurrences -/

section

variable {α : Type} [BEq α] [LawfulBEq α]

private theorem idxOf_lt_of_filter {p : α → Bool} {items : List α} {a b : α}
    (hb : p b = true) (h : (items.filter p).idxOf a < (items.filter p).idxOf b) :
    items.idxOf a < items.idxOf b := by
  induction items with
  | nil => exact h
  | cons item items ih =>
    rw [List.idxOf_cons, List.idxOf_cons]
    cases hia : item == a with
    | true =>
      -- The first item is `a`, so it is not `b`, which comes later.
      cases hib : item == b with
      | true =>
        rw [eq_of_beq hia] at hib
        rw [eq_of_beq hib] at h
        exact absurd h (Nat.lt_irrefl _)
      | false => exact Nat.succ_pos _
    | false =>
      cases hib : item == b with
      | true =>
        have hb' : item = b := eq_of_beq hib
        rw [hb', List.filter_cons_of_pos hb, List.idxOf_cons_self] at h
        exact absurd h (Nat.not_lt_zero _)
      | false =>
        refine Nat.succ_lt_succ (ih ?_)
        cases hp : p item with
        | true =>
          rw [List.filter_cons_of_pos hp, List.idxOf_cons, List.idxOf_cons, hia, hib] at h
          exact Nat.lt_of_succ_lt_succ h
        | false => rwa [List.filter_cons_of_neg (by simp [hp])] at h

/-- The different items stand in the order of their first occurrences. -/
theorem pairwise_idxOf_eraseDups (items : List α) :
    items.eraseDups.Pairwise fun a b ↦ items.idxOf a < items.idxOf b := by
  match items with
  | [] => exact List.Pairwise.nil
  | item :: items =>
    rw [List.eraseDups_cons]
    have hlen := List.length_filter_le (fun b ↦ !b == item) items
    refine List.pairwise_cons.mpr ⟨?_, ?_⟩
    · intro b hb
      have hne : (item == b) = false := by
        have hb' := (List.mem_filter.mp (List.mem_eraseDups.mp hb)).2
        rw [Bool.not_eq_true', BEq.comm] at hb'
        exact hb'
      rw [List.idxOf_cons_self, List.idxOf_cons, hne]
      exact Nat.succ_pos _
    · apply (pairwise_idxOf_eraseDups (items.filter fun b ↦ !b == item)).imp_of_mem
      intro a b ha hb h
      have ha' := (List.mem_filter.mp (List.mem_eraseDups.mp ha)).2
      have hb' := (List.mem_filter.mp (List.mem_eraseDups.mp hb)).2
      have hlt := idxOf_lt_of_filter (p := fun b ↦ !b == item) hb' h
      rw [Bool.not_eq_true', BEq.comm] at ha' hb'
      rw [List.idxOf_cons, List.idxOf_cons, ha', hb']
      exact Nat.succ_lt_succ hlt
termination_by items.length
decreasing_by exact Nat.lt_succ_of_le hlen

end

/-! ### Arrangements -/

variable {ε : Type} [Payload ε]

instance : Std.TransCmp (@order ε _) :=
  inferInstanceAs (Std.TransCmp (compareLex (compareOn rank) (compareOn toText)))

theorem order_swap (a b : Reason ε) : a.order b = (b.order a).swap :=
  Std.OrientedCmp.eq_swap

private theorem isLE_trans (a b c : Reason ε) :
    (a.order b).isLE = true → (b.order c).isLE = true → (a.order c).isLE = true :=
  Std.TransCmp.isLE_trans

private theorem isLE_total (a b : Reason ε) :
    ((a.order b).isLE || (b.order a).isLE) = true := by
  rw [order_swap b a]
  cases a.order b <;> rfl

variable [DecidableEq ε]

/-- The reasons of one list in order: they are those of the other list, a reason stands before
another one if its kind or words come first, and if neither does, if it occurs first. -/
structure IsArrangement (reasons arranged : List (Reason ε)) : Prop where
  mem_iff : ∀ reason, reason ∈ arranged ↔ reason ∈ reasons
  pairwise : arranged.Pairwise fun a b ↦
    a.order b = .lt ∨ a.order b = .eq ∧ reasons.idxOf a < reasons.idxOf b

namespace IsArrangement

/-- No reason occurs twice in an arrangement. -/
theorem nodup {reasons arranged : List (Reason ε)} (h : IsArrangement reasons arranged) :
    arranged.Nodup := by
  apply h.pairwise.imp
  rintro a _ (hlt | ⟨-, hlt⟩) rfl
  · have hself : a.order a = .eq := Std.ReflCmp.compare_self
    rw [hself] at hlt
    cases hlt
  · exact Nat.lt_irrefl _ hlt

/-- Reasons have only one arrangement. -/
theorem unique {reasons first second : List (Reason ε)} (hfirst : IsArrangement reasons first)
    (hsecond : IsArrangement reasons second) : first = second := by
  refine List.Perm.eq_of_pairwise ?_ hfirst.pairwise hsecond.pairwise ?_
  · rintro a b - - (hab | ⟨hab, hlt⟩) (hba | ⟨hba, hlt'⟩)
    · rw [order_swap, hba] at hab
      cases hab
    · rw [order_swap, hba] at hab
      cases hab
    · rw [order_swap, hba] at hab
      cases hab
    · omega
  · apply (List.perm_ext_iff_of_nodup hfirst.nodup hsecond.nodup).mpr
    intro reason
    rw [hfirst.mem_iff, hsecond.mem_iff]

end IsArrangement

theorem arrange_perm (reasons : List (Reason ε)) : (arrange reasons).Perm reasons.eraseDups :=
  List.mergeSort_perm _ _

theorem arrange_nil : arrange ([] : List (Reason ε)) = [] := by
  rw [arrange, List.eraseDups_nil, List.mergeSort_nil]

theorem arrange_singleton (reason : Reason ε) : arrange [reason] = [reason] := by
  rw [arrange, List.eraseDups_cons, List.filter_nil, List.eraseDups_nil, List.mergeSort_singleton]

/-- Reasons of one kind with the same words stay in the order of their first occurrences. -/
theorem filter_arrange (reasons : List (Reason ε)) (reason : Reason ε) :
    (arrange reasons).filter (·.order reason = .eq) =
      reasons.eraseDups.filter (·.order reason = .eq) := by
  symm
  -- The tied reasons are in order already, so sorting keeps them as a sublist. Sorting ties no
  -- others, so the sublist is all of what is tied in the sorted list.
  have htied : (reasons.eraseDups.filter (·.order reason = .eq)).Pairwise
      fun a b ↦ (a.order b).isLE = true := by
    apply List.pairwise_of_forall_mem_list
    intro a ha b hb
    have ha' : a.order reason = .eq := by simpa using (List.mem_filter.mp ha).2
    have hb' : b.order reason = .eq := by simpa using (List.mem_filter.mp hb).2
    have hab : a.order b = .eq :=
      Std.TransCmp.eq_trans ha' (by rw [order_swap, hb']; rfl)
    rw [hab]
    rfl
  have hsub := List.sublist_mergeSort isLE_trans isLE_total htied List.filter_sublist
  have hfilter := hsub.filter (·.order reason = .eq)
  rw [List.filter_filter] at hfilter
  simp only [Bool.and_self] at hfilter
  apply hfilter.eq_of_length
  exact ((arrange_perm reasons).filter _).length_eq.symm

/-- Putting reasons into order gives their arrangement. -/
theorem isArrangement_arrange (reasons : List (Reason ε)) :
    IsArrangement reasons (arrange reasons) where
  mem_iff reason := by rw [arrange, List.mem_mergeSort, List.mem_eraseDups]
  pairwise := by
    apply List.pairwise_iff_forall_sublist.mpr
    intro a b hab
    have hle : (a.order b).isLE = true :=
      List.pairwise_iff_forall_sublist.mp
        (List.pairwise_mergeSort isLE_trans isLE_total reasons.eraseDups) hab
    cases h : a.order b with
    | lt => exact .inl rfl
    | gt =>
      rw [h] at hle
      cases hle
    | eq =>
      refine .inr ⟨rfl, ?_⟩
      have htied := hab.filter (·.order b = .eq)
      have hself : b.order b = .eq := Std.ReflCmp.compare_self
      rw [filter_arrange, List.filter_cons_of_pos (by simp [h]),
        List.filter_cons_of_pos (by simp [hself]), List.filter_nil] at htied
      exact List.pairwise_iff_forall_sublist.mp (pairwise_idxOf_eraseDups reasons)
        (htied.trans List.filter_sublist)

/-- A list is the arrangement of reasons exactly if it comes of putting them into order. -/
theorem isArrangement_iff {reasons arranged : List (Reason ε)} :
    IsArrangement reasons arranged ↔ arranged = arrange reasons :=
  ⟨fun h ↦ h.unique (isArrangement_arrange reasons), fun h ↦ h ▸ isArrangement_arrange reasons⟩

end SourceDiagnostics.Reason
