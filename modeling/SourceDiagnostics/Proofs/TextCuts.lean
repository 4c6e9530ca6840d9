import Mathlib.Data.List.Chain
import Mathlib.Data.List.Forall2
import SourceDiagnostics.Proofs.DescriptionLines

/-!
# Texts cut into parts

What was put together with a mark in between comes apart again where the mark stands, as long as the
parts do not bring in marks of their own. Characters are cut here at the first mark or the last one,
at each empty line, and into the lines that a terminal shows.
-/

namespace SourceDiagnostics.Text

/-! ### Cutting at one mark -/

/-- What stands in front of the first `mark` and what stands behind it. -/
def cutAtFirst? (mark : Char) (chars : List Char) : Option (List Char × List Char) :=
  match chars.dropWhile (· != mark) with
  | [] => none
  | _ :: back => some (chars.takeWhile (· != mark), back)

/-- What stands in front of the last `mark` and what stands behind it. -/
def cutAtLast? (mark : Char) (chars : List Char) : Option (List Char × List Char) :=
  (cutAtFirst? mark chars.reverse).map fun (back, front) ↦ (front.reverse, back.reverse)

theorem cutAtFirst?_append {mark : Char} {front : List Char} (back : List Char)
    (h : mark ∉ front) : cutAtFirst? mark (front ++ mark :: back) = some (front, back) := by
  have hfront : ∀ c ∈ front, (c != mark) = true := by
    intro c hc
    rw [bne_iff_ne]
    rintro rfl
    exact h hc
  rw [cutAtFirst?, List.dropWhile_append_of_pos hfront, List.takeWhile_append_of_pos hfront,
    List.dropWhile_cons_of_neg (by simp), List.takeWhile_cons_of_neg (by simp), List.append_nil]

/-- Characters are cut at a mark with no other mark in front of it. -/
theorem cutAtFirst?_eq_some_iff {mark : Char} {chars front back : List Char} :
    cutAtFirst? mark chars = some (front, back) ↔ chars = front ++ mark :: back ∧ mark ∉ front := by
  constructor
  · intro h
    have hsplit := List.takeWhile_append_dropWhile (p := (· != mark)) (l := chars)
    have hstop := List.head?_dropWhile_not (· != mark) chars
    rw [cutAtFirst?] at h
    split at h
    · cases h
    · next c rest hrest =>
      cases h
      rw [hrest] at hsplit hstop
      obtain rfl : c = mark := by simpa using hstop
      refine ⟨hsplit.symm, fun hmem ↦ ?_⟩
      have hne := List.all_eq_true.mp List.all_takeWhile c hmem
      exact bne_iff_ne.mp hne rfl
  · rintro ⟨rfl, h⟩
    exact cutAtFirst?_append back h

/-- Characters are cut at a mark with no other mark behind it. -/
theorem cutAtLast?_eq_some_iff {mark : Char} {chars front back : List Char} :
    cutAtLast? mark chars = some (front, back) ↔ chars = front ++ mark :: back ∧ mark ∉ back := by
  have hreverse : chars = front ++ mark :: back ↔
      chars.reverse = back.reverse ++ mark :: front.reverse := by
    rw [← List.reverse_inj]
    simp
  rw [hreverse, ← List.mem_reverse, ← cutAtFirst?_eq_some_iff, cutAtLast?, Option.map_eq_some_iff]
  constructor
  · rintro ⟨⟨behind, before⟩, hcut, heq⟩
    cases heq
    rw [hcut, List.reverse_reverse, List.reverse_reverse]
  · intro hcut
    exact ⟨_, hcut, by simp only [List.reverse_reverse]⟩

/-! ### Cutting at empty lines -/

/-- The parts of some characters: wherever two line feeds stand in a row, counted from the front,
one part ends and the next one begins behind them. -/
def paragraphsOfChars : List Char → List (List Char)
  | [] => [[]]
  | '\n' :: '\n' :: rest => [] :: paragraphsOfChars rest
  | c :: rest => (paragraphsOfChars rest).modifyHead (c :: ·)

/-- The parts of the text between two line feeds in a row. -/
def paragraphs (text : String) : List String :=
  (paragraphsOfChars text.toList).map String.ofList

/-- No two line feeds stand in a row. -/
def HasNoGap (chars : List Char) : Prop := chars.IsChain fun c d ↦ ¬(c = '\n' ∧ d = '\n')

theorem hasNoGap_of_not_mem {chars : List Char} (h : '\n' ∉ chars) : HasNoGap chars := by
  apply List.Pairwise.isChain
  apply List.pairwise_of_forall_mem_list
  rintro c hc - - ⟨rfl, -⟩
  exact h hc

private theorem paragraphsOfChars_cons {c : Char} {rest : List Char}
    (h : ∀ d ∈ rest.head?, ¬(c = '\n' ∧ d = '\n')) :
    paragraphsOfChars (c :: rest) = (paragraphsOfChars rest).modifyHead (c :: ·) := by
  rw [paragraphsOfChars]
  rintro behind rfl rfl
  exact h '\n' rfl ⟨rfl, rfl⟩

/-- A part ends at the first two line feeds in a row, so it may not end in a line feed itself. -/
theorem paragraphsOfChars_append {part : List Char} (rest : List Char)
    (h : HasNoGap (part ++ ['\n'])) :
    paragraphsOfChars (part ++ '\n' :: '\n' :: rest) = part :: paragraphsOfChars rest := by
  induction part with
  | nil => rfl
  | cons c part ih =>
    obtain ⟨hhead, htail⟩ := List.isChain_cons.mp h
    have hsame : (part ++ '\n' :: '\n' :: rest).head? = (part ++ ['\n']).head? := by
      cases part <;> rfl
    rw [List.cons_append, paragraphsOfChars_cons (by rwa [hsame]), ih htail]
    rfl

theorem paragraphsOfChars_eq_singleton {part : List Char} (h : HasNoGap part) :
    paragraphsOfChars part = [part] := by
  induction part with
  | nil => rfl
  | cons c part ih =>
    obtain ⟨hhead, htail⟩ := List.isChain_cons.mp h
    rw [paragraphsOfChars_cons hhead, ih htail]
    rfl

/-- Texts that are put together with an empty line in between come apart at the empty lines, if no
text has one inside or begins one at its end. -/
theorem paragraphs_intercalate {texts : List String} (hne : texts ≠ [])
    (h : ∀ text ∈ texts, HasNoGap (text.toList ++ ['\n'])) :
    paragraphs ("\n\n".intercalate texts) = texts := by
  induction texts with
  | nil => exact absurd rfl hne
  | cons first others ih =>
    have hfirst := h first List.mem_cons_self
    cases others with
    | nil =>
      have hgap : HasNoGap first.toList := (List.isChain_append.mp hfirst).1
      simp [paragraphs, paragraphsOfChars_eq_singleton hgap]
    | cons second others =>
      have hrest := ih (List.cons_ne_nil second others)
        fun text hm ↦ h text (List.mem_cons_of_mem first hm)
      have hchars : ("\n\n".intercalate (first :: second :: others)).toList =
          first.toList ++ '\n' :: '\n' :: ("\n\n".intercalate (second :: others)).toList := by
        simp [String.intercalate_cons_cons]
      rw [paragraphs, hchars, paragraphsOfChars_append _ hfirst, List.map_cons,
        String.ofList_toList]
      exact congrArg (first :: ·) hrest

/-! ### Cutting into lines -/

/-- A line is made of characters, and none of them is a line feed. -/
structure IsLine (line : String) : Prop where
  nonempty : line ≠ ""
  unbroken : '\n' ∉ line.toList

/-- A text shows a line if it is the line, or the line without a carriage return at its end. -/
def ShowsLine (shown line : String) : Prop := line = shown ∨ line = shown ++ "\r"

/-- The parts of the text between line feeds. -/
def cutAtLineFeeds (text : String) : List String := (text.toList.splitOn '\n').map String.ofList

theorem cutAtLineFeeds_intercalate {texts : List String} (hne : texts ≠ [])
    (h : ∀ text ∈ texts, '\n' ∉ text.toList) :
    cutAtLineFeeds ("\n".intercalate texts) = texts := by
  have hsplit : (("\n".intercalate texts).toList).splitOn '\n' = texts.map String.toList := by
    rw [String.toList_intercalate]
    exact List.splitOn_intercalate '\n' (by simpa using h) (by simpa using hne)
  rw [cutAtLineFeeds, hsplit, List.map_map]
  exact (List.map_congr_left fun _ _ ↦ String.ofList_toList).trans (List.map_id texts)

private theorem hasNoGap_append_lineFeed {line : String} (h : IsLine line) :
    HasNoGap (line.toList ++ ['\n']) := by
  refine List.isChain_append.mpr ⟨hasNoGap_of_not_mem h.unbroken, .singleton _, ?_⟩
  rintro c hc - - ⟨rfl, -⟩
  exact h.unbroken (List.mem_of_getLast? hc)

private theorem head?_ne_lineFeed {line rest : List Char} (hne : line ≠ []) (h : '\n' ∉ line) :
    ∀ c ∈ (line ++ rest).head?, c ≠ '\n' := by
  obtain ⟨d, line, rfl⟩ := List.exists_cons_of_ne_nil hne
  rintro c hc rfl
  obtain rfl := Option.some.inj hc
  exact h List.mem_cons_self

/-- Lines that are put together have no empty line in between, nor is there one behind them. -/
theorem hasNoGap_intercalate {texts : List String} (hne : texts ≠ [])
    (h : ∀ text ∈ texts, IsLine text) :
    HasNoGap (("\n".intercalate texts).toList ++ ['\n']) := by
  induction texts with
  | nil => exact absurd rfl hne
  | cons first others ih =>
    have hfirst := h first List.mem_cons_self
    cases others with
    | nil =>
      rw [String.intercalate_singleton]
      exact hasNoGap_append_lineFeed hfirst
    | cons second others =>
      have hsecond := h second (by simp)
      have hrest := ih (List.cons_ne_nil second others)
        fun text hm ↦ h text (List.mem_cons_of_mem first hm)
      obtain ⟨behind, hbehind⟩ : ∃ behind, ("\n".intercalate (second :: others)).toList =
          second.toList ++ behind := by
        cases others with
        | nil => exact ⟨[], by simp⟩
        | cons third others => exact ⟨_, by simp [String.intercalate_cons_cons]; rfl⟩
      have hchars : ("\n".intercalate (first :: second :: others)).toList ++ ['\n'] =
          first.toList ++ '\n' :: (("\n".intercalate (second :: others)).toList ++ ['\n']) := by
        simp [String.intercalate_cons_cons]
      rw [hchars]
      refine List.isChain_split.mpr ⟨hasNoGap_append_lineFeed hfirst, ?_⟩
      refine List.isChain_cons.mpr ⟨?_, hrest⟩
      rintro c hc ⟨-, rfl⟩
      rw [hbehind, List.append_assoc] at hc
      exact head?_ne_lineFeed (by simpa using hsecond.nonempty) hsecond.unbroken _ hc rfl

private theorem linesOfChars_cons {c : Char} {rest : List Char} (hfeed : c ≠ '\n')
    (hreturn : c = '\r' → ∀ d ∈ rest.head?, d ≠ '\n') :
    linesOfChars (c :: rest) =
      match linesOfChars rest with
      | [] => [[c]]
      | line :: lines => (c :: line) :: lines := by
  rw [linesOfChars.eq_def]
  split
  · next h => cases h
  · next h => exact absurd (List.cons.inj h).1 hfeed
  · next h =>
    obtain ⟨hc, rfl⟩ := List.cons.inj h
    exact absurd rfl (hreturn hc '\n' rfl)
  · next h =>
    obtain ⟨rfl, rfl⟩ := List.cons.inj h
    rfl

/-- A line feed shows the line in front of it, without the carriage return that it may end in. -/
private theorem linesOfChars_append_lineFeed {line : List Char} (rest : List Char)
    (h : '\n' ∉ line) :
    ∃ shown, linesOfChars (line ++ '\n' :: rest) = shown :: linesOfChars rest ∧
      (line = shown ∨ line = shown ++ ['\r']) := by
  induction line with
  | nil => exact ⟨[], rfl, .inl rfl⟩
  | cons c line ih =>
    obtain ⟨hc, hline⟩ : c ≠ '\n' ∧ '\n' ∉ line := by
      simpa [eq_comm (a := c)] using h
    by_cases hreturn : c = '\r' ∧ line = []
    · obtain ⟨rfl, rfl⟩ := hreturn
      exact ⟨[], rfl, .inr rfl⟩
    · obtain ⟨shown, hlines, hshown⟩ := ih hline
      have hnext : c = '\r' → ∀ d ∈ (line ++ '\n' :: rest).head?, d ≠ '\n' := by
        intro hc
        exact head?_ne_lineFeed (fun hnil ↦ hreturn ⟨hc, hnil⟩) hline
      refine ⟨c :: shown, ?_, ?_⟩
      · rw [List.cons_append, linesOfChars_cons hc hnext, hlines]
      · rcases hshown with rfl | rfl
        · exact .inl rfl
        · exact .inr rfl

/-- Lines that are put together are shown one by one. -/
theorem forall₂_showsLine_lines {texts : List String} (h : ∀ text ∈ texts, IsLine text) :
    List.Forall₂ ShowsLine (lines ("\n".intercalate texts)) texts := by
  induction texts with
  | nil => exact .nil
  | cons first others ih =>
    have hfirst := h first List.mem_cons_self
    cases others with
    | nil =>
      rw [String.intercalate_singleton, lines_eq_singleton hfirst.nonempty hfirst.unbroken]
      exact .cons (.inl rfl) .nil
    | cons second others =>
      have hrest := ih fun text hm ↦ h text (List.mem_cons_of_mem first hm)
      have hchars : ("\n".intercalate (first :: second :: others)).toList =
          first.toList ++ '\n' :: ("\n".intercalate (second :: others)).toList := by
        simp [String.intercalate_cons_cons]
      obtain ⟨shown, hlines, hshown⟩ := linesOfChars_append_lineFeed
        ("\n".intercalate (second :: others)).toList hfirst.unbroken
      rw [lines, hchars, hlines, List.map_cons]
      refine .cons ?_ hrest
      simpa [ShowsLine, ← String.toList_inj] using hshown

end SourceDiagnostics.Text
