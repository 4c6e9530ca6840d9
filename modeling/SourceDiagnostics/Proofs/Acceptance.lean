import Mathlib.Data.List.Forall2
import Mathlib.Data.List.Induction
import SourceDiagnostics.Numbers.Check
import SourceDiagnostics.Proofs.Reading

/-!
# The grammar of numbers

A text of numbers is one that this grammar derives, where `ws` is a blank and `digit` one of the
digits 0 to 9:

    numbers := ws* number (ws+ number)* ws* end
    number  := digit+

A derivation gives the decimal values of its numbers along with the characters. Checking never
builds a derivation. It accepts a source exactly if there is one whose values all fit.
-/

namespace SourceDiagnostics.Numbers

open Text

/-! ### Derivations -/

/-- Any number of blanks: `ws*`. -/
def AreBlanks (chars : List Char) : Prop := ∀ c ∈ chars, isBlank c = true

/-- Digits and their decimal value: `number := digit+`. -/
inductive IsNumber : List Char → Nat → Prop
  | digit {c : Char} (hdigit : c.isDigit = true) : IsNumber [c] (c.toNat - '0'.toNat)
  | more {digits : List Char} {value : Nat} {c : Char} (hdigits : IsNumber digits value)
      (hdigit : c.isDigit = true) :
    IsNumber (digits ++ [c]) (10 * value + (c.toNat - '0'.toNat))

/-- Numbers with blanks in front of each, and their values: `(ws+ number)*`. -/
inductive AreFurtherNumbers : List Char → List Nat → Prop
  | none : AreFurtherNumbers [] []
  | next {blanks digits further : List Char} {value : Nat} {values : List Nat}
      (hne : blanks ≠ []) (hblanks : AreBlanks blanks) (hnumber : IsNumber digits value)
      (hfurther : AreFurtherNumbers further values) :
    AreFurtherNumbers (blanks ++ digits ++ further) (value :: values)

/-- All characters of a text and the values of its numbers:
`numbers := ws* number (ws+ number)* ws* end`. -/
inductive AreNumbers : List Char → List Nat → Prop
  | whole {before digits further behind : List Char} {value : Nat} {values : List Nat}
      (hbefore : AreBlanks before) (hnumber : IsNumber digits value)
      (hfurther : AreFurtherNumbers further values) (hbehind : AreBlanks behind) :
    AreNumbers (before ++ digits ++ further ++ behind) (value :: values)

private theorem areBlanks_nil : AreBlanks [] := by
  simp [AreBlanks]

/-- A number is a positive count of digits with the value that they have in decimal. -/
theorem isNumber_iff {digits : List Char} {value : Nat} :
    IsNumber digits value ↔
      digits ≠ [] ∧ (∀ c ∈ digits, c.isDigit = true) ∧ Nat.ofDigitChars 10 digits 0 = value := by
  constructor
  · intro h
    induction h with
    | digit hdigit =>
      rw [List.forall_mem_singleton, Nat.ofDigitChars_cons, Nat.ofDigitChars_nil, Nat.mul_zero,
        Nat.zero_add]
      exact ⟨List.cons_ne_nil _ _, hdigit, rfl⟩
    | more _ hdigit ih =>
      obtain ⟨_, hall, hvalue⟩ := ih
      refine ⟨by simp, ?_, ?_⟩
      · intro c hc
        rcases List.mem_append.mp hc with hc | hc
        · exact hall c hc
        · rwa [List.mem_singleton.mp hc]
      · rw [Nat.ofDigitChars_append, hvalue, Nat.ofDigitChars_cons, Nat.ofDigitChars_nil]
  · rintro ⟨hne, hall, rfl⟩
    induction digits using List.reverseRecOn with
    | nil => exact absurd rfl hne
    | append_singleton digits c ih =>
      have hdigit : c.isDigit = true := hall c (by simp)
      rw [Nat.ofDigitChars_append, Nat.ofDigitChars_cons, Nat.ofDigitChars_nil]
      by_cases hnil : digits = []
      · subst hnil
        rw [Nat.ofDigitChars_nil, Nat.mul_zero, Nat.zero_add]
        exact .digit hdigit
      · exact .more (ih hnil fun d hd ↦ hall d (List.mem_append_left [c] hd)) hdigit

/-! ### Derivations go by the words -/

private theorem wordsFrom_append_of_blanks {offset : Nat} {blanks rest : List Char}
    (h : AreBlanks blanks) :
    wordsFrom offset (blanks ++ rest) = wordsFrom (offset + utf8Length blanks) rest := by
  induction blanks generalizing offset with
  | nil => rfl
  | cons c blanks ih =>
    rw [List.cons_append, wordsFrom_blank (h c List.mem_cons_self),
      ih fun d hd ↦ h d (List.mem_cons_of_mem c hd), utf8Length_cons, Nat.add_assoc]

/-- The words are the numbers with these values, one for one. -/
private abbrev WordsAre (offset : Nat) (chars : List Char) (values : List Nat) : Prop :=
  List.Forall₂ (fun word value ↦ IsNumber word.chars value) (wordsFrom offset chars) values

private theorem wordsAre_cons {offset : Nat} {digits rest : List Char} {value : Nat}
    {values : List Nat} (hnumber : IsNumber digits value)
    (hrest : ∀ c ∈ rest.head?, isBlank c = true)
    (hwords : WordsAre (offset + utf8Length digits) rest values) :
    WordsAre offset (digits ++ rest) (value :: values) := by
  obtain ⟨hne, hall, -⟩ := isNumber_iff.mp hnumber
  have hword : wordsFrom offset digits = [⟨offset, digits⟩] :=
    wordsFrom_eq_singleton hne fun c hc ↦ isBlank_eq_false_of_isDigit (hall c hc)
  rw [WordsAre, wordsFrom_append hrest, hword]
  exact .cons hnumber hwords

private theorem isBlank_of_head?_further {further behind : List Char} {values : List Nat}
    (hfurther : AreFurtherNumbers further values) (hbehind : AreBlanks behind) :
    ∀ c ∈ (further ++ behind).head?, isBlank c = true := by
  intro c hc
  cases hfurther with
  | none => exact hbehind c (List.mem_of_mem_head? hc)
  | next hne hblanks _ _ =>
    rw [List.append_assoc, List.append_assoc, List.head?_append_of_ne_nil _ hne] at hc
    exact hblanks c (List.mem_of_mem_head? hc)

private theorem wordsAre_further {offset : Nat} {further behind : List Char} {values : List Nat}
    (hfurther : AreFurtherNumbers further values) (hbehind : AreBlanks behind) :
    WordsAre offset (further ++ behind) values := by
  induction hfurther generalizing offset with
  | none =>
    rw [List.nil_append, WordsAre, wordsFrom_eq_nil_iff.mpr hbehind]
    exact .nil
  | next _ hblanks hnumber hfurther ih =>
    rw [List.append_assoc, List.append_assoc, WordsAre, wordsFrom_append_of_blanks hblanks]
    exact wordsAre_cons hnumber (isBlank_of_head?_further hfurther hbehind) ih

private theorem AreNumbers.cons_blank {c : Char} {chars : List Char} {values : List Nat}
    (h : AreNumbers chars values) (hc : isBlank c = true) : AreNumbers (c :: chars) values := by
  cases h with
  | @whole before _ _ _ _ _ hbefore hnumber hfurther hbehind =>
    have hblanks : AreBlanks (c :: before) := List.forall_mem_cons.mpr ⟨hc, hbefore⟩
    exact .whole hblanks hnumber hfurther hbehind

/-- A number may be put in front of others that begin with a blank. -/
private theorem AreNumbers.append_number {digits rest : List Char} {value : Nat}
    {values : List Nat} (h : AreNumbers rest values) (hnumber : IsNumber digits value)
    (hrest : ∀ c ∈ rest.head?, isBlank c = true) :
    AreNumbers (digits ++ rest) (value :: values) := by
  cases h with
  | @whole before others further behind _ _ hbefore hothers hfurther hbehind =>
    have hne : before ≠ [] := by
      -- Otherwise the other numbers would begin with a digit.
      rintro rfl
      obtain ⟨hnil, hall, -⟩ := isNumber_iff.mp hothers
      obtain ⟨d, ds, rfl⟩ := List.exists_cons_of_ne_nil hnil
      have hblank : isBlank d = true := hrest d rfl
      rw [isBlank_eq_false_of_isDigit (hall d List.mem_cons_self)] at hblank
      cases hblank
    have hall := AreFurtherNumbers.next hne hbefore hothers hfurther
    simpa using AreNumbers.whole areBlanks_nil hnumber hall hbehind

/-- Where all words are numbers, the grammar derives them, unless there are none. -/
private theorem areNumbers_of_wordsAre (offset : Nat) (chars : List Char) :
    ∀ values, WordsAre offset chars values →
      values = [] ∧ AreBlanks chars ∨ AreNumbers chars values := by
  unfold WordsAre
  fun_induction wordsFrom offset chars with
  | case1 =>
    intro values h
    exact .inl ⟨List.forall₂_nil_left_iff.mp h, areBlanks_nil⟩
  | case2 offset c rest hc ih =>
    intro values h
    rcases ih values h with ⟨hnil, hrest⟩ | hrest
    · exact .inl ⟨hnil, List.forall_mem_cons.mpr ⟨hc, hrest⟩⟩
    · exact .inr (hrest.cons_blank hc)
  | case3 offset c rest hc word ih =>
    intro values h
    cases h with
    | @cons _ value _ values hnumber hothers =>
      have hsplit : word ++ rest.dropWhile (!isBlank ·) = c :: rest := by
        rw [List.cons_append, List.takeWhile_append_dropWhile]
      -- The rest has further words, which the grammar derives, or it ends in blanks.
      right
      rw [← hsplit]
      rcases ih values hothers with ⟨rfl, hrest⟩ | hrest
      · simpa using AreNumbers.whole areBlanks_nil hnumber .none hrest
      · exact hrest.append_number hnumber fun d hd ↦ isBlank_of_head?_dropWhile hd

/-- The grammar derives numbers exactly where all words are numbers and there is at least one. -/
theorem areNumbers_iff {offset : Nat} {chars : List Char} {values : List Nat} :
    AreNumbers chars values ↔
      wordsFrom offset chars ≠ [] ∧
        List.Forall₂ (fun word value ↦ IsNumber word.chars value) (wordsFrom offset chars)
          values := by
  constructor
  · intro h
    cases h with
    | @whole before digits further behind value values hbefore hnumber hfurther hbehind =>
      have hwords : WordsAre (offset + utf8Length before) (digits ++ (further ++ behind))
          (value :: values) :=
        wordsAre_cons hnumber (isBlank_of_head?_further hfurther hbehind)
          (wordsAre_further hfurther hbehind)
      rw [List.append_assoc, List.append_assoc, wordsFrom_append_of_blanks hbefore]
      refine ⟨?_, hwords⟩
      intro hnil
      rw [WordsAre, hnil] at hwords
      cases hwords
  · rintro ⟨hne, hwords⟩
    rcases areNumbers_of_wordsAre offset chars values hwords with ⟨rfl, -⟩ | h
    · exact absurd (List.forall₂_nil_right_iff.mp hwords) hne
    · exact h

/-! ### Words that are numbers -/

/-- A word with characters stands for a number exactly if the grammar gives it that value. -/
theorem wordNumber?_eq_some_iff {offset : Nat} {chars : List Char} {number : UInt64}
    (hne : chars ≠ []) :
    wordNumber? ⟨offset, chars⟩ = some number ↔ IsNumber chars number.toNat := by
  have hsplit := List.takeWhile_append_dropWhile (p := Char.isDigit) (l := chars)
  have hdigits : ∀ c ∈ chars.takeWhile Char.isDigit, c.isDigit = true :=
    List.all_eq_true.mp List.all_takeWhile
  have hstop := List.head?_dropWhile_not Char.isDigit chars
  rw [isNumber_iff, wordNumber?]
  cases hrest : chars.dropWhile Char.isDigit with
  | nil =>
    rw [hrest, List.append_nil] at hsplit
    rw [hsplit] at hdigits
    rw [wordOutcome_digits hdigits, and_iff_right hne, and_iff_right hdigits]
    have hnumber := number.toNat_lt_size
    by_cases hfits : Nat.ofDigitChars 10 chars 0 < UInt64.size
    · rw [if_pos hfits, Option.some.injEq, ← UInt64.toNat_inj, UInt64.toNat_ofNat_of_lt' hfits]
    · rw [if_neg hfits]
      constructor
      · intro h
        cases h
      · omega
  | cons found tail =>
    have hfound : found.isDigit = false := by
      rw [hrest] at hstop
      exact hstop
    have hfailed : ∃ failure, wordOutcome ⟨offset, chars⟩ = .error failure := by
      rw [← hsplit, hrest]
      by_cases hnil : chars.takeWhile Char.isDigit = []
      · rw [hnil, List.nil_append]
        exact ⟨_, wordOutcome_missing hfound⟩
      · exact ⟨_, wordOutcome_stray hnil hdigits hfound⟩
    obtain ⟨failure, hfailure⟩ := hfailed
    rw [hfailure]
    constructor
    · intro h
      cases h
    · rintro ⟨-, hall, -⟩
      have hmem : found ∈ chars := by
        rw [← hsplit, hrest]
        exact List.mem_append_right _ List.mem_cons_self
      rw [hall found hmem] at hfound
      cases hfound

private theorem filterMap_eq_iff {words : List Word} {numbers : List UInt64} :
    words.filterMap wordFailure? = [] ∧ words.filterMap wordNumber? = numbers ↔
      List.Forall₂ (fun word number ↦ wordNumber? word = some number) words numbers := by
  induction words generalizing numbers with
  | nil => simp [eq_comm]
  | cons word words ih =>
    rw [List.forall₂_cons_left_iff]
    cases houtcome : wordOutcome word with
    | ok number =>
      have hnumber : wordNumber? word = some number := by rw [wordNumber?, houtcome]
      have hfailure : wordFailure? word = none := by rw [wordFailure?, houtcome]
      rw [List.filterMap_cons_none hfailure, List.filterMap_cons_some hnumber, hnumber]
      constructor
      · rintro ⟨hfailures, rfl⟩
        exact ⟨number, _, rfl, ih.mp ⟨hfailures, rfl⟩, rfl⟩
      · rintro ⟨_, _, ⟨⟩, hwords, rfl⟩
        obtain ⟨hfailures, rfl⟩ := ih.mpr hwords
        exact ⟨hfailures, rfl⟩
    | error failure =>
      have hnumber : wordNumber? word = none := by rw [wordNumber?, houtcome]
      have hfailure : wordFailure? word = some failure := by rw [wordFailure?, houtcome]
      rw [List.filterMap_cons_some hfailure, hnumber]
      simp

/-- Nothing fails and these are the numbers exactly if there are words and each stands for the
number in its place. -/
theorem failures_eq_nil_and_numbers_eq_iff {text : String} {numbers : List UInt64} :
    (read text).failures = [] ∧ (read text).numbers = numbers ↔
      words text ≠ [] ∧
        List.Forall₂ (fun word number ↦ wordNumber? word = some number) (words text) numbers := by
  rw [failures_read, numbers_read]
  by_cases hnil : words text = []
  · simp [hnil]
  · rw [if_neg hnil, and_iff_right hnil, filterMap_eq_iff]

/-! ### Acceptance -/

/-- A source is accepted with these numbers exactly if nothing in it fails and it has them. -/
theorem check_eq_accepted {source : Source} {headline : String} {numbers : List UInt64} :
    check source headline = .ok (.accepted numbers) ↔
      (read source.text).failures = [] ∧ (read source.text).numbers = numbers := by
  unfold check
  by_cases hnil : (read source.text).failures = []
  · have hsucceeded : (read source.text).succeeded = true := by
      rw [Reading.succeeded, hnil]
      rfl
    simp [hsucceeded, hnil]
  · have hsucceeded : (read source.text).succeeded = false := by
      simpa [Reading.succeeded] using hnil
    -- A source that is not accepted is rejected, or it is too large for the numbers of lines.
    simp only [hsucceeded, hnil]
    cases Diagnostic.ofErrors { headline, code := some Code.numberExpected.name } source.locate
      (read source.text).failures <;> simp [bind, Except.bind, pure, Except.pure]

private theorem forall₂_wordNumber?_iff {text : String} {numbers : List UInt64} :
    List.Forall₂ (fun word number ↦ wordNumber? word = some number) (words text) numbers ↔
      List.Forall₂ (fun word value ↦ IsNumber word.chars value) (words text)
        (numbers.map UInt64.toNat) := by
  have hne : ∀ word ∈ words text, word.chars ≠ [] := by
    intro word hword
    obtain ⟨_, _, -, -, hne, -⟩ := mem_wordsFrom_iff.mp hword
    exact hne
  rw [List.forall₂_map_right_iff]
  constructor
  · intro h
    apply ((List.forall₂_and_left _ _).mpr ⟨hne, h⟩).imp
    rintro word number ⟨hword, hnumber⟩
    exact (wordNumber?_eq_some_iff hword).mp hnumber
  · intro h
    apply ((List.forall₂_and_left _ _).mpr ⟨hne, h⟩).imp
    rintro word number ⟨hword, hnumber⟩
    exact (wordNumber?_eq_some_iff hword).mpr hnumber

/-- A source is accepted with a list of numbers exactly if the grammar derives its text and the
numbers are, in their order, the values of the derivation, which therefore all fit. -/
theorem check_eq_accepted_iff (source : Source) (headline : String) (numbers : List UInt64) :
    check source headline = .ok (.accepted numbers) ↔
      AreNumbers source.text.toList (numbers.map UInt64.toNat) := by
  rw [check_eq_accepted, failures_eq_nil_and_numbers_eq_iff, forall₂_wordNumber?_iff]
  exact areNumbers_iff.symm

end SourceDiagnostics.Numbers
