import SourceDiagnostics.Proofs.ByteOrder
import SourceDiagnostics.Proofs.Conversion
import SourceDiagnostics.Proofs.DescriptionLines

/-!
# Mismatches in words

A mismatch is settled by the item that was met and the set of the items that were expected. In
which order these were given, and how often, makes no difference to the failure or to its
description, which lists them in an order of their own. Since a description of a mismatch has one
or two lines, it always fits into the markers of a report.
-/

namespace SourceDiagnostics

open Text

/-! ### The rules -/

/-- The order of items: literals come first, then labels, both by the bytes of their texts, and the
end of the input comes last. -/
inductive Item.Before : Item → Item → Prop
  | literals {first second : String} (h : utf8 first.toList < utf8 second.toList) :
    Before (.literal first) (.literal second)
  | literal_label (text name : String) : Before (.literal text) (.label name)
  | literal_endOfInput (text : String) : Before (.literal text) .endOfInput
  | labels {first second : String} (h : utf8 first.toList < utf8 second.toList) :
    Before (.label first) (.label second)
  | label_endOfInput (name : String) : Before (.label name) .endOfInput

/-- Texts as the choices of a sentence. -/
inductive Choices : List String → String → Prop
  | one (only : String) : Choices [only] only
  | two (first last : String) : Choices [first, last] (first ++ " or " ++ last)
  | more {front : List String} (last : String) (h : 2 ≤ front.length) :
    Choices (front ++ [last]) (", ".intercalate front ++ ", or " ++ last)

/-- The lines about an item that was met, if it is known, and the items that were expected. -/
inductive TellsMismatch : Option Item → List Item → List String → Prop
  | unknown : TellsMismatch none [] ["unknown parse error"]
  | unexpected (item : Item) : TellsMismatch (some item) [] ["unexpected " ++ item.toText]
  | expecting {items : List Item} {choices : String} (h : Choices (items.map Item.toText) choices) :
    TellsMismatch none items ["expecting " ++ choices]
  | both (item : Item) {items : List Item} {choices : String}
      (h : Choices (items.map Item.toText) choices) :
    TellsMismatch (some item) items ["unexpected " ++ item.toText, "expecting " ++ choices]

/-! ### Items in order -/

/-- Items are compared by the rules for their order. -/
theorem Item.compare_eq_lt_iff {a b : Item} : compare a b = .lt ↔ a.Before b := by
  have hcompare : compare a b =
      (compare a.rank b.rank).then (compare a.sortText b.sortText) := rfl
  rw [hcompare, compare_then_eq_lt_iff]
  constructor
  · intro h
    cases a with
    | literal text =>
      cases b with
      | literal other => exact .literals (by simpa [rank, sortText] using h)
      | label name => exact .literal_label text name
      | endOfInput => exact .literal_endOfInput text
    | label name =>
      cases b with
      | literal text => simp [rank] at h
      | label other => exact .labels (by simpa [rank, sortText] using h)
      | endOfInput => exact .label_endOfInput name
    | endOfInput => cases b <;> simp [rank, sortText] at h
  · intro h
    cases h with
    | literals h => exact .inr ⟨rfl, h⟩
    | literal_label text name => exact .inl Nat.zero_lt_one
    | literal_endOfInput text => exact .inl Nat.zero_lt_two
    | labels h => exact .inr ⟨rfl, h⟩
    | label_endOfInput name => exact .inl Nat.one_lt_two

/-- A set lists its items in their order. -/
theorem ItemSet.pairwise_toList (items : ItemSet) : items.toList.Pairwise Item.Before :=
  items.ordered_toList.imp Item.compare_eq_lt_iff.mp

theorem ItemSet.mem_toList_ofList {items : List Item} {item : Item} :
    item ∈ (Std.ExtTreeSet.ofList items : ItemSet).toList ↔ item ∈ items := by
  rw [Std.ExtTreeSet.mem_toList, Std.ExtTreeSet.mem_ofList, List.contains_iff_mem]

/-! ### Lines -/

theorem choices_alternatives {texts : List String} (hne : texts ≠ []) :
    Choices texts (alternatives texts) := by
  fun_cases alternatives texts with
  | case1 => exact absurd rfl hne
  | case2 only => exact .one only
  | case3 first last => exact .two first last
  | case4 _ _ hone htwo =>
    have hlength : 2 ≤ texts.dropLast.length := by
      rw [List.length_dropLast]
      rcases texts with - | ⟨first, - | ⟨second, - | ⟨third, others⟩⟩⟩
      · exact absurd rfl hne
      · exact absurd rfl (hone first)
      · exact absurd rfl (htwo first second)
      · simp only [List.length_cons]
        omega
    have hmore := Choices.more (texts.getLastD "") hlength
    rwa [dropLast_append_getLastD hne] at hmore

theorem tellsMismatch_mismatchLines (unexpected : Option Item) (expected : ItemSet) :
    TellsMismatch unexpected expected.toList (mismatchLines unexpected expected) := by
  fun_cases mismatchLines unexpected expected with
  | case1 hnil =>
    rw [hnil]
    exact .unknown
  | case2 item hnil =>
    rw [hnil]
    exact .unexpected item
  | case3 hne => exact .expecting (choices_alternatives (by simpa using hne))
  | case4 item hne => exact .both item (choices_alternatives (by simpa using hne))

/-- Every line about a mismatch begins with a word of its own. -/
theorem TellsMismatch.ne_unknownError {unexpected : Option Item} {items : List Item}
    {lines : List String} (h : TellsMismatch unexpected items lines) :
    ∀ line ∈ lines, line ≠ unknownError := by
  have hunexpected (text : String) : "unexpected " ++ text ≠ unknownError :=
    append_ne_unknownError text rfl (by decide)
  have hexpecting (text : String) : "expecting " ++ text ≠ unknownError :=
    append_ne_unknownError text rfl (by decide)
  cases h with
  | unknown => decide
  | unexpected item => exact List.forall_mem_singleton.mpr (hunexpected _)
  | expecting h => exact List.forall_mem_singleton.mpr (hexpecting _)
  | both item h =>
    exact List.forall_mem_cons.mpr ⟨hunexpected _, List.forall_mem_singleton.mpr (hexpecting _)⟩

/-! ### Markers -/

/-- One or two lines are the messages of the markers. -/
theorem map_message_markersOf {lines : List String} (h : lines.length = 1 ∨ lines.length = 2) :
    (markersOf lines).map Marker.message = lines := by
  match lines, h with
  | [only], _ => rfl
  | [first, second], _ => rfl

variable {ε : Type} [Payload ε] [DecidableEq ε]

/-- A mismatch has one report, which is marked with the lines of its description. -/
theorem Failure.exists_report_mismatch (offset : Nat) (unexpected : Option Item)
    (expected : List Item) (severity : Severity) (heading : Heading) (span : Span) :
    ∃ report, ((mismatch offset unexpected expected : Failure ε).toDiagnostic severity heading
        span).reports = [report] ∧
      report.annotations.map (·.marker.message) =
        (mismatch offset unexpected expected : Failure ε).description := by
  refine ⟨_, rfl, ?_⟩
  show ((markersOf (mismatchLines unexpected (.ofList expected))).map
    fun marker ↦ (⟨span, marker⟩ : MarkedSpan)).map (·.marker.message) = _
  rw [List.map_map]
  exact map_message_markersOf (length_mismatchLines unexpected (.ofList expected))

/-- A mismatch and its description are told by the set of expected items. The description has a line
for what was met and one for what was expected, if they are known, the latter with the items in
their order as choices. So it always fits into the markers of the one report of the mismatch. -/
theorem Failure.mismatch_told (offset : Nat) (unexpected : Option Item) (expected : List Item) :
    (∀ other : List Item, (∀ item, item ∈ expected ↔ item ∈ other) →
      (mismatch offset unexpected expected : Failure ε) = mismatch offset unexpected other ∧
      (mismatch offset unexpected expected : Failure ε).description =
        (mismatch offset unexpected other : Failure ε).description) ∧
    (∃ items : List Item, items.Pairwise Item.Before ∧ (∀ item, item ∈ items ↔ item ∈ expected) ∧
      TellsMismatch unexpected items
        (mismatch offset unexpected expected : Failure ε).description) ∧
    ∀ severity heading span, ∃ report,
      ((mismatch offset unexpected expected : Failure ε).toDiagnostic severity heading
        span).reports = [report] ∧
      (report.annotations.length = 1 ∨ report.annotations.length = 2) ∧
      report.annotations.map (·.marker.message) =
        (mismatch offset unexpected expected : Failure ε).description ∧
      ∀ marked ∈ report.annotations, marked.marker.message ≠ "<<Unknown error>>" := by
  have htells := tellsMismatch_mismatchLines unexpected (.ofList expected)
  refine ⟨?_, ?_, ?_⟩
  · intro other h
    have hequal : (mismatch offset unexpected expected : Failure ε) =
        mismatch offset unexpected other := mismatch_congr h
    exact ⟨hequal, congrArg description hequal⟩
  · exact ⟨_, ItemSet.pairwise_toList _, fun item ↦ ItemSet.mem_toList_ofList, htells⟩
  · intro severity heading span
    obtain ⟨report, hreports, hmessages⟩ :=
      exists_report_mismatch (ε := ε) offset unexpected expected severity heading span
    have hlength : report.annotations.length =
        (mismatch offset unexpected expected : Failure ε).description.length := by
      rw [← hmessages, List.length_map]
    refine ⟨report, hreports, ?_, hmessages, ?_⟩
    · rw [hlength]
      exact length_mismatchLines unexpected (.ofList expected)
    · intro marked hmarked
      apply htells.ne_unknownError
      have hmem := List.mem_map_of_mem (f := (·.marker.message)) hmarked
      rwa [hmessages] at hmem

/-- Three expected items, in another order and one of them twice. -/
theorem Failure.mismatch_told_three :
    (∀ item : Item, item ∈ [.label "b", .literal "b", .label "a"] ↔
      item ∈ [.literal "b", .label "a", .label "b", .label "a"]) ∧
      (mismatch 3 (some .endOfInput) [.label "b", .literal "b", .label "a"] : Failure String) =
        mismatch 3 (some .endOfInput) [.literal "b", .label "a", .label "b", .label "a"] ∧
      (mismatch 3 (some .endOfInput) [.literal "b", .label "a", .label "b", .label "a"] :
        Failure String).description =
          ["unexpected end of input", "expecting 'b', a, or b"] := by
  have h : ∀ item : Item, item ∈ [.label "b", .literal "b", .label "a"] ↔
      item ∈ [.literal "b", .label "a", .label "b", .label "a"] := by
    intro item
    simp only [List.mem_cons, List.not_mem_nil, or_false]
    grind
  obtain ⟨hequal, -⟩ := (mismatch_told (ε := String) 3 (some .endOfInput) _).1 _ h
  exact ⟨h, hequal, by decide⟩

end SourceDiagnostics
