import SourceDiagnostics.Proofs.TextCuts
import SourceDiagnostics.Span

/-!
# Spans that read back

A span is shown as its file and then its two places. The name of the file is shown as it is and may
look like a span itself, but the places are made of digits, a colon each and a dash between them. So
the name ends in front of the last at sign of the text, and what comes behind that sign is cut at
the first dash and each of the two parts at its first colon.
-/

namespace SourceDiagnostics

open Text

/-! ### Numbers and places -/

namespace Numbering

/-- The number that is written as the characters. -/
def ofDigits? (digits : List Char) : Option UInt32 :=
  let number := UInt32.ofNat (Nat.ofDigitChars 10 digits 0)
  if (toString number).toList = digits then some number else none

/-- A number is read from its decimal digits and from nothing else. -/
theorem ofDigits?_eq_some_iff {digits : List Char} {n : UInt32} :
    ofDigits? digits = some n ↔ digits = (toString n).toList := by
  constructor
  · intro h
    simp only [ofDigits?] at h
    split at h
    · next hdigits =>
      obtain rfl := Option.some.inj h
      exact hdigits.symm
    · cases h
  · rintro rfl
    have hvalue : UInt32.ofNat (Nat.ofDigitChars 10 (toString n).toList 0) = n := by
      rw [toList_toString, Nat.ofDigitChars_ten_toDigits, UInt32.ofNat_toNat]
    rw [ofDigits?, hvalue, if_pos rfl]

/-- A sign that is no digit is not in a number. -/
theorem not_mem_toString {c : Char} (n : UInt32) (h : c.isDigit = false) :
    c ∉ (toString n).toList := by
  intro hmem
  rw [toList_toString] at hmem
  rw [Nat.isDigit_of_mem_toDigits (by decide) (by decide) hmem] at h
  cases h

end Numbering

namespace Place

/-- The place that is written as the characters. -/
def ofChars? (chars : List Char) : Option Place := do
  let (line, column) ← cutAtFirst? ':' chars
  return ⟨← Numbering.ofDigits? line, ← Numbering.ofDigits? column⟩

theorem toList_toText (place : Place) :
    place.toText.toList =
      (toString place.line).toList ++ ':' :: (toString place.column).toList := by
  simp [toText]

/-- A place is read from the text that it is shown as and from nothing else. -/
theorem ofChars?_eq_some_iff {chars : List Char} {place : Place} :
    ofChars? chars = some place ↔ chars = place.toText.toList := by
  rw [toList_toText]
  constructor
  · intro h
    simp only [ofChars?, Option.bind_eq_bind, Option.bind_eq_some_iff, Option.pure_def,
      Option.some.injEq] at h
    obtain ⟨⟨front, back⟩, hcut, line, hline, column, hcolumn, rfl⟩ := h
    have hfront : front = (toString line).toList := Numbering.ofDigits?_eq_some_iff.mp hline
    have hback : back = (toString column).toList := Numbering.ofDigits?_eq_some_iff.mp hcolumn
    rw [(cutAtFirst?_eq_some_iff.mp hcut).1, hfront, hback]
  · rintro rfl
    have hcolon : ':' ∉ (toString place.line).toList := Numbering.not_mem_toString _ rfl
    simp only [ofChars?, cutAtFirst?_append _ hcolon, Option.bind_eq_bind, Option.bind_some,
      Numbering.ofDigits?_eq_some_iff.mpr rfl, Option.pure_def]

/-- A sign that is neither a digit nor a colon is not in the text of a place. -/
theorem not_mem_toText {c : Char} (place : Place) (h : c.isDigit = false) (hcolon : c ≠ ':') :
    c ∉ place.toText.toList := by
  rw [toList_toText, List.mem_append, List.mem_cons]
  rintro (hline | heq | hcolumn)
  · exact Numbering.not_mem_toString _ h hline
  · exact hcolon heq
  · exact Numbering.not_mem_toString _ h hcolumn

end Place

/-! ### Spans -/

namespace Span

/-- The span that is shown as the text. -/
def ofText? (text : String) : Option Span := do
  let (file, places) ← cutAtLast? '@' text.toList
  let (start, stop) ← cutAtFirst? '-' places
  return ⟨← Place.ofChars? start, ← Place.ofChars? stop, String.ofList file⟩

theorem toList_toText (span : Span) :
    span.toText.toList = span.file.toList ++
      '@' :: (span.start.toText.toList ++ '-' :: span.stop.toText.toList) := by
  simp [toText]

/-- The last at sign of a shown span ends the name of its file, whatever signs are in the name. -/
theorem cutAtLast?_toText (span : Span) :
    cutAtLast? '@' span.toText.toList =
      some (span.file.toList, span.start.toText.toList ++ '-' :: span.stop.toText.toList) := by
  rw [cutAtLast?_eq_some_iff]
  refine ⟨span.toList_toText, ?_⟩
  rw [List.mem_append, List.mem_cons]
  rintro (hstart | heq | hstop)
  · exact Place.not_mem_toText _ rfl (by decide) hstart
  · revert heq
    decide
  · exact Place.not_mem_toText _ rfl (by decide) hstop

theorem ofText?_toText (span : Span) : ofText? span.toText = some span := by
  have hdash : '-' ∉ span.start.toText.toList := Place.not_mem_toText _ rfl (by decide)
  simp only [ofText?, cutAtLast?_toText, cutAtFirst?_append _ hdash, Option.bind_eq_bind,
    Option.bind_some, Place.ofChars?_eq_some_iff.mpr rfl, Option.pure_def, String.ofList_toList]

/-- A span is read from the text that it is shown as and from nothing else. -/
theorem ofText?_eq_some_iff {text : String} {span : Span} :
    ofText? text = some span ↔ text = span.toText := by
  constructor
  · intro h
    simp only [ofText?, Option.bind_eq_bind, Option.bind_eq_some_iff, Option.pure_def,
      Option.some.injEq] at h
    obtain ⟨⟨file, places⟩, hfile, ⟨front, back⟩, hcut, start, hstart, stop, hstop, rfl⟩ := h
    have hplaces : places = front ++ '-' :: back := (cutAtFirst?_eq_some_iff.mp hcut).1
    have hfront : front = start.toText.toList := Place.ofChars?_eq_some_iff.mp hstart
    have hback : back = stop.toText.toList := Place.ofChars?_eq_some_iff.mp hstop
    rw [← String.toList_inj, toList_toText, (cutAtLast?_eq_some_iff.mp hfile).1, hplaces, hfront,
      hback, String.toList_ofList]
  · rintro rfl
    exact ofText?_toText span

/-- Spans read back from the texts that they are shown as, so spans that are shown alike are equal:
whatever their places are, whether or not they are in order, and whatever their files are called. -/
theorem toText_readsBack :
    (∀ (text : String) (span : Span), ofText? text = some span ↔ text = span.toText) ∧
      ∀ first second : Span, first.toText = second.toText ↔ first = second := by
  refine ⟨fun text span ↦ ofText?_eq_some_iff, fun first second ↦ ⟨fun h ↦ ?_, congrArg toText⟩⟩
  have hread := ofText?_toText first
  rw [h, ofText?_toText] at hread
  exact (Option.some.inj hread).symm

/-- The name of a file that looks like a span does not get in the way. -/
example : ofText? "a@1:2-3:4@5:6-7:8" = some ⟨⟨5, 6⟩, ⟨7, 8⟩, "a@1:2-3:4"⟩ := by decide

end Span

end SourceDiagnostics
