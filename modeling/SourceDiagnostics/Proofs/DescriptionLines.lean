import Mathlib.Algebra.GroupWithZero.Nat
import SourceDiagnostics.Failure.Description

/-!
# The lines of a description

How a failure is marked is chosen by the number of entries in its description. Each entry takes up
one line when it is shown, as long as no label among the items of a mismatch holds a line feed: a
label is shown as it is, whereas a literal text is named or escaped, and the words of a parser that
gave up are cut into their lines.
-/

namespace SourceDiagnostics

namespace Text

/-! ### Texts without line feeds -/

private theorem linesOfChars_eq_singleton {chars : List Char} (hne : chars ≠ [])
    (h : '\n' ∉ chars) : linesOfChars chars = [chars] := by
  fun_induction linesOfChars chars with
  | case1 => exact absurd rfl hne
  | case2 rest => exact absurd List.mem_cons_self h
  | case3 rest => exact absurd (List.mem_cons_of_mem _ List.mem_cons_self) h
  | case4 c rest _ _ hl ih =>
    cases rest with
    | nil => rfl
    | cons d rest =>
      rw [ih (List.cons_ne_nil d rest) fun hm ↦ h (List.mem_cons_of_mem _ hm)] at hl
      cases hl
  | case5 c rest _ _ first others hl ih =>
    have hrest : rest ≠ [] := by
      rintro rfl
      cases hl
    rw [ih hrest fun hm ↦ h (List.mem_cons_of_mem _ hm)] at hl
    cases hl
    rfl

/-- A text without line feeds is its only line. -/
theorem lines_eq_singleton {text : String} (hne : text ≠ "") (h : '\n' ∉ text.toList) :
    lines text = [text] := by
  rw [lines, linesOfChars_eq_singleton (by simpa using hne) h, List.map_singleton,
    String.ofList_toList]

/-- What holds of the signs of the numbers below sixteen holds of all hexadecimal digits. -/
theorem forall_mem_toDigits (p : Char → Prop) (h : ∀ d < 16, p (Nat.digitChar d)) (n : Nat) :
    ∀ c ∈ Nat.toDigits 16 n, p c := by
  induction n using Nat.strongRecOn with
  | ind n ih =>
    rw [Nat.toDigits_eq_if (by decide)]
    split
    · next hn => exact List.forall_mem_singleton.mpr (h n hn)
    · rw [List.forall_mem_append, List.forall_mem_singleton]
      exact ⟨ih (n / 16) (by omega), h (n % 16) (by omega)⟩

private theorem lineFeed_not_mem_toDigits (n : Nat) : '\n' ∉ Nat.toDigits 16 n := by
  intro h
  exact forall_mem_toDigits (· ≠ '\n') (by decide) n '\n' h rfl

/-- An escaped character holds no line feed. -/
theorem lineFeed_not_mem_escapeChar (repertoire : Repertoire) (quotes : List Char) (atStart : Bool)
    (c : Char) : '\n' ∉ escapeChar repertoire quotes atStart c := by
  fun_cases escapeChar repertoire quotes atStart c with
  | case1 | case2 | case3 | case4 => decide
  | case5 _ _ _ hfeed => simpa using Ne.symm hfeed
  | case6 _ _ _ hfeed => simpa using Ne.symm hfeed
  | case7 =>
    rw [escapeCodePoint]
    simpa using lineFeed_not_mem_toDigits c.toNat

/-- A quoted text holds no line feed. -/
theorem lineFeed_not_mem_quoteText (repertoire : Repertoire) (text : String) :
    '\n' ∉ (quoteText repertoire text).toList := by
  have hescaped : '\n' ∉ escapeChars repertoire text.toList := by
    cases text.toList with
    | nil => exact List.not_mem_nil
    | cons c rest =>
      rw [escapeChars, List.mem_append, List.mem_flatMap]
      rintro (hfirst | ⟨d, -, hother⟩)
      · exact lineFeed_not_mem_escapeChar repertoire _ true c hfirst
      · exact lineFeed_not_mem_escapeChar repertoire _ false d hother
  simpa [quoteText, doubleQuote] using hescaped

/-! ### Counting line feeds -/

/-- The number of line feeds in a text. -/
def lineFeeds (text : String) : Nat := text.toList.count '\n'

/-- The number of lines that texts take up when they are shown one below the other. -/
def shownLines (texts : List String) : Nat := (texts.map fun text ↦ lineFeeds text + 1).sum

theorem lineFeeds_eq_zero_iff {text : String} : lineFeeds text = 0 ↔ '\n' ∉ text.toList :=
  List.count_eq_zero

theorem lineFeeds_append (front back : String) :
    lineFeeds (front ++ back) = lineFeeds front + lineFeeds back := by
  rw [lineFeeds, String.toList_append, List.count_append]
  rfl

theorem lineFeeds_intercalate {separator : String} (h : lineFeeds separator = 0)
    (texts : List String) :
    lineFeeds (separator.intercalate texts) = (texts.map lineFeeds).sum := by
  induction texts with
  | nil => rfl
  | cons first others ih =>
    cases others with
    | nil => simp
    | cons second others =>
      rw [String.intercalate_cons_cons, lineFeeds_append, lineFeeds_append, ih, h, Nat.add_zero,
        List.map_cons (l := second :: others), List.sum_cons]

/-- Texts take up a line each, and one more for each line feed. -/
theorem shownLines_eq (texts : List String) :
    shownLines texts = texts.length + (texts.map lineFeeds).sum := by
  induction texts with
  | nil => rfl
  | cons text texts ih =>
    rw [shownLines] at ih ⊢
    simp only [List.map_cons, List.sum_cons, List.length_cons, ih]
    omega

end Text

open Text

/-! ### Items -/

/-- The line feeds of an item that come through when it is shown. -/
def Item.lineFeeds : Item → Nat
  | .literal _ => 0
  | .label name => Text.lineFeeds name
  | .endOfInput => 0

private theorem lineFeed_not_mem_literalText (repertoire : Repertoire) (text : String) :
    '\n' ∉ (Item.literalText repertoire text).toList := by
  unfold Item.literalText
  split
  · decide
  · next c _ =>
    fun_cases Item.blankName? c with
    | case1 | case2 | case3 | case4 | case5 =>
      rw [Option.getD_some]
      decide
    | case6 hfeed => simpa [singleQuote] using Ne.symm hfeed
  · exact lineFeed_not_mem_quoteText repertoire text

theorem Item.lineFeeds_toText (item : Item) : Text.lineFeeds item.toText = item.lineFeeds := by
  cases item with
  | literal text => exact lineFeeds_eq_zero_iff.mpr (lineFeed_not_mem_literalText .unicode text)
  | label name => rfl
  | endOfInput => rfl

/-- Some texts are all but the last one and then that one. -/
theorem dropLast_append_getLastD {texts : List String} (h : texts ≠ []) :
    texts.dropLast ++ [texts.getLastD ""] = texts := by
  rw [List.getLastD_eq_getLast?, List.getLast?_eq_some_getLast h]
  exact List.dropLast_concat_getLast h

/-- Put together as alternatives, texts keep their line feeds and get no others. -/
theorem lineFeeds_alternatives (texts : List String) :
    Text.lineFeeds (alternatives texts) = (texts.map Text.lineFeeds).sum := by
  have hor : Text.lineFeeds " or " = 0 := rfl
  have hcomma : Text.lineFeeds ", " = 0 := rfl
  have hcommaOr : Text.lineFeeds ", or " = 0 := rfl
  fun_cases alternatives texts with
  | case1 => rfl
  | case2 only => simp
  | case3 first last => simp [lineFeeds_append, hor]
  | case4 _ hnil =>
    rw [lineFeeds_append, lineFeeds_append, lineFeeds_intercalate hcomma, hcommaOr, Nat.add_zero]
    calc (texts.dropLast.map Text.lineFeeds).sum + Text.lineFeeds (texts.getLastD "")
      _ = ((texts.dropLast ++ [texts.getLastD ""]).map Text.lineFeeds).sum := by simp
      _ = (texts.map Text.lineFeeds).sum := by rw [dropLast_append_getLastD hnil]

/-! ### Descriptions -/

variable {ε : Type}

/-- The items that a failure tells of; a parser that gave up tells of none. -/
def Failure.items (failure : Failure ε) : List Item :=
  match failure.cause with
  | .mismatch unexpected expected => unexpected.toList ++ expected.toList
  | .gaveUp _ => []

/-- The lines about a mismatch have the line feeds of its items. -/
theorem sum_lineFeeds_mismatchLines (unexpected : Option Item) (expected : ItemSet) :
    ((mismatchLines unexpected expected).map Text.lineFeeds).sum =
      ((unexpected.toList ++ expected.toList).map Item.lineFeeds).sum := by
  have hexpected : Text.lineFeeds ("expecting " ++ alternatives (expected.toList.map Item.toText)) =
      (expected.toList.map Item.lineFeeds).sum := by
    rw [lineFeeds_append, lineFeeds_alternatives, List.map_map]
    simp only [Function.comp_def, Item.lineFeeds_toText]
    exact Nat.zero_add _
  have hunexpected (item : Item) : Text.lineFeeds ("unexpected " ++ item.toText) =
      item.lineFeeds := by
    rw [lineFeeds_append, Item.lineFeeds_toText]
    exact Nat.zero_add _
  fun_cases mismatchLines unexpected expected with
  | case1 hnil =>
    rw [hnil]
    rfl
  | case2 item hnil => simp [hnil, hunexpected]
  | case3 => simp [hexpected]
  | case4 item => simp [hunexpected, hexpected]

/-- No line about a parser that gave up has a line feed. -/
theorem lineFeed_not_mem_gaveUpLines [Payload ε] [DecidableEq ε] {reasons : List (Reason ε)}
    {line : String} (h : line ∈ gaveUpLines reasons) : '\n' ∉ line.toList := by
  rw [gaveUpLines] at h
  split at h
  · obtain rfl := List.mem_singleton.mp h
    decide
  · obtain ⟨reason, -, hline⟩ := List.mem_flatMap.mp h
    obtain ⟨chars, hchars, rfl⟩ := List.mem_map.mp hline
    rw [String.toList_ofList]
    exact not_mem_of_mem_linesOfChars hchars

/-- A description has the line feeds of the items that its failure tells of. -/
theorem Failure.sum_lineFeeds_description [Payload ε] [DecidableEq ε] (failure : Failure ε) :
    (failure.description.map Text.lineFeeds).sum = (failure.items.map Item.lineFeeds).sum := by
  obtain ⟨offset, cause⟩ := failure
  cases cause with
  | mismatch unexpected expected => exact sum_lineFeeds_mismatchLines unexpected expected
  | gaveUp reasons =>
    apply List.sum_eq_zero_iff_forall_eq_nat.mpr
    intro n hn
    obtain ⟨line, hline, rfl⟩ := List.mem_map.mp hn
    exact lineFeeds_eq_zero_iff.mpr (lineFeed_not_mem_gaveUpLines hline)

/-- The entries of a description are one line each exactly if no label among the items of the
failure holds a line feed. In any case they take up as many lines as there are entries, and one more
for each line feed of a label. -/
theorem Failure.shownLines_description [Payload ε] [DecidableEq ε] (failure : Failure ε) :
    ((∀ line ∈ failure.description, '\n' ∉ line.toList) ↔
      ∀ name, .label name ∈ failure.items → '\n' ∉ name.toList) ∧
    shownLines failure.description =
      failure.description.length + (failure.items.map Item.lineFeeds).sum := by
  have hsum := failure.sum_lineFeeds_description
  refine ⟨?_, by rw [shownLines_eq, hsum]⟩
  have hlines : (failure.description.map Text.lineFeeds).sum = 0 ↔
      ∀ line ∈ failure.description, '\n' ∉ line.toList := by
    simp only [List.sum_eq_zero_iff_forall_eq_nat, List.forall_mem_map, lineFeeds_eq_zero_iff]
  have hlabels : (failure.items.map Item.lineFeeds).sum = 0 ↔
      ∀ name, .label name ∈ failure.items → '\n' ∉ name.toList := by
    rw [List.sum_eq_zero_iff_forall_eq_nat, List.forall_mem_map]
    constructor
    · exact fun h name hname ↦ lineFeeds_eq_zero_iff.mp (h _ hname)
    · intro h item hitem
      cases item with
      | literal text => rfl
      | label name => exact lineFeeds_eq_zero_iff.mpr (h name hitem)
      | endOfInput => rfl
  rw [← hlines, hsum, hlabels]

/-- A label of two lines makes one entry, which is not one line. -/
theorem Failure.shownLines_label_two_lines :
    (mismatch 0 (some (.label "a\nb")) [] : Failure String).description = ["unexpected a\nb"] ∧
      '\n' ∈ "unexpected a\nb".toList ∧
      shownLines (mismatch 0 (some (.label "a\nb")) [] : Failure String).description ≠
        (mismatch 0 (some (.label "a\nb")) [] : Failure String).description.length := by
  decide

end SourceDiagnostics
