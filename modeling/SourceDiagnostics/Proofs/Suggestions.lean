import SourceDiagnostics.Proofs.Joining
import SourceDiagnostics.Proofs.Lines

/-!
# Suggested replacements

Where a number is too large, its report suggests the greatest number in its place. The suggestion is
made at the one character where the failure lies, which is the first digit of the number. Put there,
it leaves all other digits behind it, so what comes of it is too large again. In place of the whole
number it would be read as the greatest number. Whatever stands in place of a word, the other words
are read as before.
-/

namespace SourceDiagnostics

open Text

/-! ### Replacing what a span covers -/

/-- A text is what comes of a source when the characters from the start of a span up to its stop are
replaced. -/
def Source.Replaces (source : Source) (span : Span) (replacement result : String) : Prop :=
  ∃ front covered back, source.text.toList = front ++ covered ++ back ∧
    span.start.IsBehind front ∧ span.stop.IsBehind (front ++ covered) ∧
    result = .ofList (front ++ replacement.toList ++ back)

/-- A place is behind the same characters wherever a text is cut there. -/
theorem Place.IsBehind.eq_of_append {front back front' back' : List Char} {place : Place}
    (happend : front ++ back = front' ++ back') (h : place.IsBehind front)
    (h' : place.IsBehind front') : front = front' := by
  have hcompare := Source.compare_of_isBehind_of_append happend h h'
  rw [Std.ReflOrd.compare_self, eq_comm, Std.compare_eq_iff_eq] at hcompare
  exact eq_of_utf8Length_eq happend hcompare

/-- There is one way to replace what a span covers. -/
theorem Source.replaces_iff {source : Source} {span : Span} {front covered back : List Char}
    (htext : source.text.toList = front ++ covered ++ back) (hstart : span.start.IsBehind front)
    (hstop : span.stop.IsBehind (front ++ covered)) (replacement result : String) :
    source.Replaces span replacement result ↔
      result = .ofList (front ++ replacement.toList ++ back) := by
  constructor
  · rintro ⟨front', covered', back', htext', hstart', hstop', rfl⟩
    have happend := htext'.symm.trans htext
    have hbehind : front' ++ covered' = front ++ covered := hstop'.eq_of_append happend hstop
    rw [hbehind] at happend
    have hback : back' = back := List.append_cancel_left happend
    have hfront : front' = front := by
      rw [List.append_assoc] at htext htext'
      exact hstart'.eq_of_append (htext'.symm.trans htext) hstart
    rw [hfront, hback]
  · rintro rfl
    exact ⟨front, covered, back, htext, hstart, hstop, rfl⟩

/-- A span of one character that is no line feed covers that character. -/
theorem Numbers.IsPointBehind.stop {file : String} {front : List Char} {span : Span} {c : Char}
    (h : IsPointBehind file front span) (hc : c ≠ '\n')
    (hsize : utf8Length (front ++ [c]) < UInt32.size - 1) :
    span.stop.IsBehind (front ++ [c]) := by
  have hlast : (lastLine front).length ≤ utf8Length front :=
    Nat.le_trans (length_lastLine_le front) (length_le_utf8Length front)
  have hpos := c.utf8Size_pos
  rw [utf8Length_append, utf8Length_cons, utf8Length_nil] at hsize
  constructor
  · rw [h.stopLine, h.start.line, List.count_append, List.count_singleton,
      if_neg (by simpa using hc), Nat.add_zero]
  · rw [h.stopColumn, h.start.column, lastLine_append_of_not_mem (by simpa using Ne.symm hc),
      List.length_append, List.length_singleton, Nat.min_eq_left (by omega), Nat.add_assoc]

/-! ### A word among others -/

namespace Text

/-- Where characters end in a blank, no word reaches from them into what follows. -/
theorem wordsFrom_append_of_getLast? {offset : Nat} {front back : List Char}
    (hfront : ∀ c ∈ front.getLast?, isBlank c = true) :
    wordsFrom offset (front ++ back) =
      wordsFrom offset front ++ wordsFrom (offset + utf8Length front) back := by
  cases front using List.reverseRecOn with
  | nil => simp [wordsFrom_nil]
  | append_singleton front c =>
    have hc : isBlank c = true := hfront c (by simp)
    have hhead (rest : List Char) : ∀ d ∈ (c :: rest).head?, isBlank d = true := by
      rintro d ⟨⟩
      exact hc
    rw [List.append_assoc, List.singleton_append, wordsFrom_append (hhead back),
      wordsFrom_append (hhead []), wordsFrom_blank hc, wordsFrom_blank hc, wordsFrom_nil,
      List.append_nil, utf8Length_append, utf8Length_cons, utf8Length_nil, Nat.add_zero,
      Nat.add_assoc]

/-- The words around a longest run do not depend on the run but for where they are. -/
theorem wordsFrom_run {front run back : List Char}
    (hfront : ∀ c ∈ front.getLast?, isBlank c = true) (hne : run ≠ [])
    (hrun : ∀ c ∈ run, isBlank c = false) (hback : ∀ c ∈ back.head?, isBlank c = true) :
    wordsFrom 0 (front ++ run ++ back) =
      wordsFrom 0 front ++ ⟨utf8Length front, run⟩ ::
        (wordsFrom 0 back).map (Word.moved (utf8Length front + utf8Length run)) := by
  rw [List.append_assoc, wordsFrom_append_of_getLast? hfront, wordsFrom_append hback,
    wordsFrom_eq_singleton hne hrun, ← wordsFrom_add, Nat.zero_add, Nat.add_zero]
  rfl

end Text

namespace Numbers

/-- The same outcome that many bytes further behind. -/
def moveOutcome (distance : Nat) (outcome : Outcome) : Outcome :=
  outcome.mapError (Failure.moved distance)

/-- The reading of a text in which a word of so many bytes with that outcome stands between some
characters, whose own words are read as if it were not there. -/
def readingAround (front back : List Char) (bytes : Nat) (outcome : Outcome) : Reading :=
  .ofOutcomes ((wordsFrom 0 front).map wordOutcome ++ outcome ::
    ((wordsFrom 0 back).map wordOutcome).map (moveOutcome (utf8Length front + bytes)))

/-- Whatever word stands between some characters, the words among these are read alike. -/
theorem read_run {front run back : List Char}
    (hfront : ∀ c ∈ front.getLast?, isBlank c = true) (hne : run ≠ [])
    (hrun : ∀ c ∈ run, isBlank c = false) (hback : ∀ c ∈ back.head?, isBlank c = true) :
    read (.ofList (front ++ run ++ back)) =
      readingAround front back (utf8Length run) (wordOutcome ⟨utf8Length front, run⟩) := by
  have hwords : words (.ofList (front ++ run ++ back)) =
      wordsFrom 0 front ++ ⟨utf8Length front, run⟩ ::
        (wordsFrom 0 back).map (Word.moved (utf8Length front + utf8Length run)) := by
    rw [words, String.toList_ofList]
    exact wordsFrom_run hfront hne hrun hback
  rw [read_eq, hwords, if_neg (by simp), List.map_append, List.map_cons, List.map_map,
    readingAround, List.map_map]
  congr 3
  apply List.map_congr_left
  intro word _
  exact wordOutcome_moved _ word

/-! ### Digits -/

private theorem utf8Length_digits {digits : List Char} (h : ∀ c ∈ digits, c.isDigit = true) :
    utf8Length digits = digits.length := by
  rw [← length_utf8, utf8_digits h, List.length_map]

/-- Whatever digits stand between some characters, the words among these are read alike. -/
theorem read_digits {front digits back : List Char}
    (hfront : ∀ c ∈ front.getLast?, isBlank c = true) (hne : digits ≠ [])
    (hdigits : ∀ c ∈ digits, c.isDigit = true) (hback : ∀ c ∈ back.head?, isBlank c = true) :
    read (.ofList (front ++ digits ++ back)) =
      readingAround front back digits.length (wordOutcome ⟨utf8Length front, digits⟩) := by
  have hrun : ∀ c ∈ digits, isBlank c = false :=
    fun c hc ↦ isBlank_eq_false_of_isDigit (hdigits c hc)
  rw [read_run hfront hne hrun hback, utf8Length_digits hdigits]

/-- A word that is too large is made of digits whose value does not fit. -/
theorem digits_of_wordOutcome {word : Word} {offset digits : Nat}
    (h : wordOutcome word = .error (.payload offset (.tooLarge digits))) :
    (∀ c ∈ word.chars, c.isDigit = true) ∧
      UInt64.size ≤ Nat.ofDigitChars 10 word.chars 0 ∧
      offset = word.offset ∧ digits = word.chars.length := by
  have hchars : word.chars.takeWhile Char.isDigit ++ word.chars.dropWhile Char.isDigit =
      word.chars := List.takeWhile_append_dropWhile
  have hall : ∀ c ∈ word.chars.takeWhile Char.isDigit, c.isDigit = true :=
    List.all_eq_true.mp List.all_takeWhile
  simp only [wordOutcome] at h
  split at h
  · next hdrop =>
    rw [hdrop, List.append_nil] at hchars
    rw [hchars] at hall h
    split at h
    · cases h
    · next hlarge =>
      cases h
      exact ⟨hall, Nat.le_of_not_lt hlarge, rfl, rfl⟩
  · cases h
  · cases h

private theorem toList_greatestText :
    greatestText.toList = Nat.toDigits 10 (UInt64.size - 1) := by
  rw [greatestText, Nat.toString_eq_repr, Nat.toList_repr]

private theorem isDigit_of_mem_greatestText {c : Char} (h : c ∈ greatestText.toList) :
    c.isDigit = true := by
  rw [toList_greatestText] at h
  exact Nat.isDigit_of_mem_toDigits (by decide) (by decide) h

/-- The greatest number is read from its digits; with more digits behind them it is too large. -/
theorem wordOutcome_greatestText {offset : Nat} {rest : List Char}
    (hrest : ∀ c ∈ rest, c.isDigit = true) :
    wordOutcome ⟨offset, greatestText.toList ++ rest⟩ =
      if rest = [] then .ok (UInt64.ofNat (UInt64.size - 1))
      else .error (.payload offset (.tooLarge (greatestText.length + rest.length))) := by
  have hvalue : Nat.ofDigitChars 10 greatestText.toList 0 = UInt64.size - 1 := by
    rw [toList_greatestText, Nat.ofDigitChars_toDigits (by decide) (by decide)]
  have hall : ∀ c ∈ greatestText.toList ++ rest, c.isDigit = true :=
    List.forall_mem_append.mpr ⟨fun _ ↦ isDigit_of_mem_greatestText, hrest⟩
  rw [wordOutcome_digits hall, Nat.ofDigitChars_append, hvalue]
  cases rest with
  | nil => rfl
  | cons c rest =>
    -- One more digit makes the value at least ten times as large, and no digit lessens it.
    have hlarge : UInt64.size ≤ Nat.ofDigitChars 10 (c :: rest) (UInt64.size - 1) := by
      rw [Nat.ofDigitChars_cons]
      apply Nat.le_trans _ (le_ofDigitChars rest _)
      apply Nat.le_trans (m := 10 * (UInt64.size - 1))
      · decide
      · exact Nat.le_add_right _ _
    rw [if_neg (Nat.not_lt.mpr hlarge), if_neg (List.cons_ne_nil c rest), List.length_append]
    rfl

/-! ### Where suggestions are made -/

/-- Digits whose value does not fit stand as a word of a text between its other characters. -/
structure TooLargeIn (text : String) (front digits back : List Char) : Prop where
  text_eq : text.toList = front ++ digits ++ back
  isDigit : ∀ c ∈ digits, c.isDigit = true
  size_le : UInt64.size ≤ Nat.ofDigitChars 10 digits 0
  isBlank_front : ∀ c ∈ front.getLast?, isBlank c = true
  isBlank_back : ∀ c ∈ back.head?, isBlank c = true

/-- A number that is too large has more than one digit. -/
theorem TooLargeIn.exists_cons {text : String} {front digits back : List Char}
    (h : TooLargeIn text front digits back) : ∃ first kept, digits = first :: kept ∧ kept ≠ [] := by
  have hsize := h.size_le
  cases digits with
  | nil => exact absurd hsize (by decide)
  | cons first kept =>
    refine ⟨first, kept, rfl, ?_⟩
    rintro rfl
    have hle : first.toNat ≤ 57 :=
      (Char.isDigit_iff_toNat.mp (h.isDigit first List.mem_cons_self)).2
    have hnine : first.toNat - '0'.toNat ≤ 9 := Nat.sub_le_of_le_add hle
    rw [Nat.ofDigitChars_cons, Nat.ofDigitChars_nil, Nat.mul_zero, Nat.zero_add] at hsize
    exact absurd (Nat.le_trans hsize hnine) (by decide)

/-- A text in which a number is too large fails there, at its first digit. -/
theorem TooLargeIn.read_eq {text : String} {front digits back : List Char}
    (h : TooLargeIn text front digits back) :
    read text = readingAround front back digits.length
      (.error (.payload (utf8Length front) (.tooLarge digits.length))) := by
  have htext : text = .ofList (front ++ digits ++ back) := by
    rw [← h.text_eq, String.ofList_toList]
  have hne : digits ≠ [] := by
    obtain ⟨first, kept, rfl, -⟩ := h.exists_cons
    exact List.cons_ne_nil first kept
  rw [htext, read_digits h.isBlank_front hne h.isDigit h.isBlank_back,
    wordOutcome_digits h.isDigit, if_neg (Nat.not_lt.mpr h.size_le)]

/-- With the greatest number in place of its first digits, a number that is too large fits if no
other digits were behind them, and is too large again otherwise. Nothing changes for other words. -/
theorem TooLargeIn.read_replaced {text : String} {front digits back covered kept : List Char}
    (h : TooLargeIn text front digits back) (hdigits : digits = covered ++ kept) :
    read (.ofList (front ++ (greatestText.toList ++ kept) ++ back)) =
      readingAround front back (greatestText.length + kept.length)
        (if kept = [] then .ok (UInt64.ofNat (UInt64.size - 1))
        else .error (.payload (utf8Length front)
          (.tooLarge (greatestText.length + kept.length)))) := by
  have hkept : ∀ c ∈ kept, c.isDigit = true := by
    intro c hc
    apply h.isDigit
    rw [hdigits]
    exact List.mem_append_right covered hc
  have hall : ∀ c ∈ greatestText.toList ++ kept, c.isDigit = true :=
    List.forall_mem_append.mpr ⟨fun _ ↦ isDigit_of_mem_greatestText, hkept⟩
  have hne : greatestText.toList ++ kept ≠ [] := by
    rw [toList_greatestText]
    exact List.append_ne_nil_of_left_ne_nil Nat.toDigits_ne_nil kept
  rw [read_digits h.isBlank_front hne hall h.isBlank_back, wordOutcome_greatestText hkept,
    List.length_append, String.length_toList]

/-- Where a text fails as a number is too large, this number is one of its words. -/
theorem exists_tooLargeIn {text : String} {offset digits : Nat}
    (h : .payload offset (.tooLarge digits) ∈ (read text).failures) :
    ∃ front run back, TooLargeIn text front run back ∧ offset = utf8Length front := by
  rw [failures_read] at h
  split at h
  · cases List.mem_singleton.mp h
  · obtain ⟨word, hword, hfailure⟩ := List.mem_filterMap.mp h
    have houtcome : wordOutcome word = .error (.payload offset (.tooLarge digits)) := by
      rw [wordFailure?] at hfailure
      split at hfailure
      · cases hfailure
      · next he => rw [he, Option.some.inj hfailure]
    obtain ⟨hdigit, hsize, hoffset, -⟩ := digits_of_wordOutcome houtcome
    obtain ⟨front, back, htext, hstart, -, -, hfront, hback⟩ := mem_wordsFrom_iff.mp hword
    rw [Nat.zero_add] at hstart
    exact ⟨front, word.chars, back, ⟨htext, hdigit, hsize, hfront, hback⟩, hoffset.trans hstart⟩

/-- Each suggestion of a report is made at the first digit of a number that is too large. -/
theorem exists_tooLargeIn_of_suggestion {source : Source} {headline : String}
    {failure : Failure Problem} {report : Report} {marked : MarkedSpan}
    (hfailure : failure ∈ (read source.text).failures)
    (htold : IsToldBy source headline failure report) (hmarked : marked ∈ report.annotations)
    (hrole : marked.marker.role = .suggestion) :
    ∃ front digits back, TooLargeIn source.text front digits back ∧
      IsPointBehind source.file front marked.span ∧ marked.marker.message = greatestText := by
  obtain ⟨before, behind, span, htext, hoffset, hpoint, htells⟩ := htold
  cases htells with
  | missing offset item =>
    obtain rfl | rfl : marked = _ ∨ marked = _ := by simpa using hmarked
    · cases hrole
    · cases hrole
  | stray offset hfound =>
    obtain rfl := List.mem_singleton.mp hmarked
    cases hrole
  | tooLarge offset digits =>
    obtain rfl | rfl : marked = _ ∨ marked = _ := by simpa using hmarked
    · cases hrole
    · obtain ⟨front, run, back, hlarge, hfront⟩ := exists_tooLargeIn hfailure
      have happend : before ++ behind = front ++ (run ++ back) := by
        rw [← htext, hlarge.text_eq, List.append_assoc]
      obtain rfl : before = front := eq_of_utf8Length_eq happend (hoffset.symm.trans hfront)
      refine ⟨before, run, back, hlarge, hpoint, ?_⟩
      show "18446744073709551615" = greatestText
      decide +kernel

/-- A suggestion is made for a number that is too large and covers the first digit of it, but not
the others. Where what it covers is replaced by its message, the number is too large again. Were the
whole number replaced, the greatest one would be read in its place. Either way, nothing changes for
other words. -/
theorem suggestion_covers_first_digit {source : Source} {headline : String}
    {diagnostic : Diagnostic} {report : Report} {marked : MarkedSpan}
    (hsize : source.text.utf8ByteSize < UInt32.size - 1)
    (hcheck : check source headline = .ok (.rejected diagnostic))
    (hreport : report ∈ diagnostic.reports) (hmarked : marked ∈ report.annotations)
    (hrole : marked.marker.role = .suggestion) :
    ∃ front first kept back,
      source.text.toList = front ++ (first :: kept) ++ back ∧ kept ≠ [] ∧
      read source.text = readingAround front back (kept.length + 1)
        (.error (.payload (utf8Length front) (.tooLarge (kept.length + 1)))) ∧
      (∀ result, source.Replaces marked.span marked.marker.message result ↔
        result = .ofList (front ++ (marked.marker.message.toList ++ kept) ++ back)) ∧
      read (.ofList (front ++ (marked.marker.message.toList ++ kept) ++ back)) =
        readingAround front back (20 + kept.length)
          (.error (.payload (utf8Length front) (.tooLarge (20 + kept.length)))) ∧
      read (.ofList (front ++ marked.marker.message.toList ++ back)) =
        readingAround front back 20 (.ok (UInt64.ofNat (UInt64.size - 1))) := by
  obtain ⟨verdict, hverdict, hon⟩ := exists_verdict source headline hsize
  obtain rfl : .rejected diagnostic = verdict := Except.ok.inj (hcheck.symm.trans hverdict)
  obtain ⟨failure, hfailure, htold⟩ := exists_mem_of_forall₂ hon.forall₂_isToldBy hreport
  obtain ⟨front, digits, back, hlarge, hpoint, hmessage⟩ :=
    exists_tooLargeIn_of_suggestion hfailure htold hmarked hrole
  obtain ⟨first, kept, rfl, hkept⟩ := hlarge.exists_cons
  have htext := hlarge.text_eq
  have hfirst : first.isDigit = true := hlarge.isDigit first List.mem_cons_self
  have htext' : source.text.toList = front ++ [first] ++ (kept ++ back) := by
    rw [htext, List.append_assoc, List.append_assoc, List.singleton_append, List.cons_append]
  have hstop : marked.span.stop.IsBehind (front ++ [first]) := by
    apply hpoint.stop
    · rintro rfl
      revert hfirst
      decide
    · rw [← utf8Length_toList, htext', utf8Length_append] at hsize
      omega
  have hlength : greatestText.length = 20 := by decide +kernel
  have hpart := hlarge.read_replaced (show first :: kept = [first] ++ kept from rfl)
  have hwhole := hlarge.read_replaced (List.append_nil (first :: kept)).symm
  rw [if_neg hkept, hlength] at hpart
  rw [if_pos rfl, hlength, List.append_nil] at hwhole
  rw [hmessage]
  refine ⟨front, first, kept, back, htext, hkept, hlarge.read_eq, ?_, hpart, hwhole⟩
  intro result
  rw [Source.replaces_iff htext' hpoint.start hstop, List.append_assoc front,
    List.append_assoc front, List.append_assoc]

/-- What is suggested at a span of a number that is too large. -/
private def suggestedAt (span : Span) : MarkedSpan :=
  ⟨span, ⟨.suggestion, "18446744073709551615"⟩⟩

/-- The report at a span of a number with 20 digits that is too large. -/
private def reportAt (span : Span) : Report :=
  ⟨.error, some "E1002", "bad number",
    [⟨span, ⟨.primary, "number with 20 digits does not fit in 64 bits"⟩⟩, suggestedAt span],
    [⟨.note, "the largest supported number is 18446744073709551615"⟩]⟩

/-- The second of two words is too large, and following the suggestion does not help. -/
theorem suggestion_covers_first_digit_of_second_word :
    ∃ diagnostic report marked,
      "1 18446744073709551616".utf8ByteSize < UInt32.size - 1 ∧
      check ⟨"a.txt", "1 18446744073709551616"⟩ "bad number" = .ok (.rejected diagnostic) ∧
      report ∈ diagnostic.reports ∧ marked ∈ report.annotations ∧
      marked = ⟨⟨⟨1, 3⟩, ⟨1, 4⟩, "a.txt"⟩, ⟨.suggestion, "18446744073709551615"⟩⟩ ∧
      ∀ result,
        Source.Replaces ⟨"a.txt", "1 18446744073709551616"⟩ marked.span marked.marker.message
          result →
        result = "1 184467440737095516158446744073709551616" ∧
          read result = ⟨[1], [.payload 2 (.tooLarge 39)]⟩ := by
  have hsize : "1 18446744073709551616".utf8ByteSize < UInt32.size - 1 := by decide
  have hcheck : check ⟨"a.txt", "1 18446744073709551616"⟩ "bad number" =
      .ok (.rejected ((Diagnostic.ofReports [reportAt ⟨⟨1, 3⟩, ⟨1, 4⟩, "a.txt"⟩]).addFile "a.txt"
        "1 18446744073709551616")) := by
    decide +kernel
  have hmarked : suggestedAt ⟨⟨1, 3⟩, ⟨1, 4⟩, "a.txt"⟩ ∈
      (reportAt ⟨⟨1, 3⟩, ⟨1, 4⟩, "a.txt"⟩).annotations := by
    simp [reportAt]
  obtain ⟨front, first, kept, back, -, -, -, hreplaces, -⟩ :=
    suggestion_covers_first_digit hsize hcheck (List.mem_singleton_self _) hmarked rfl
  have hreplaced : Source.Replaces ⟨"a.txt", "1 18446744073709551616"⟩
      ⟨⟨1, 3⟩, ⟨1, 4⟩, "a.txt"⟩ "18446744073709551615"
      "1 184467440737095516158446744073709551616" :=
    ⟨['1', ' '], ['1'], "8446744073709551616".toList, by decide +kernel, ⟨rfl, rfl⟩, ⟨rfl, rfl⟩,
      by decide +kernel⟩
  refine ⟨_, _, _, hsize, hcheck, List.mem_singleton_self _, hmarked, rfl, ?_⟩
  intro result hresult
  obtain rfl : result = "1 184467440737095516158446744073709551616" :=
    ((hreplaces result).mp hresult).trans ((hreplaces _).mp hreplaced).symm
  exact ⟨rfl, by decide +kernel⟩

/-- Where a suggestion is followed, the number may be too large again. -/
theorem suggestion_too_large_again :
    ∃ diagnostic report marked,
      check ⟨"a.txt", "18446744073709551616"⟩ "bad number" = .ok (.rejected diagnostic) ∧
      report ∈ diagnostic.reports ∧ marked ∈ report.annotations ∧
      marked = ⟨⟨⟨1, 1⟩, ⟨1, 2⟩, "a.txt"⟩, ⟨.suggestion, "18446744073709551615"⟩⟩ ∧
      Source.Replaces ⟨"a.txt", "18446744073709551616"⟩ marked.span marked.marker.message
        "184467440737095516158446744073709551616" ∧
      read "184467440737095516158446744073709551616" = ⟨[], [.payload 0 (.tooLarge 39)]⟩ := by
  refine ⟨(Diagnostic.ofReports [reportAt ⟨⟨1, 1⟩, ⟨1, 2⟩, "a.txt"⟩]).addFile "a.txt"
    "18446744073709551616", reportAt ⟨⟨1, 1⟩, ⟨1, 2⟩, "a.txt"⟩,
    suggestedAt ⟨⟨1, 1⟩, ⟨1, 2⟩, "a.txt"⟩, by decide +kernel, List.mem_singleton_self _, ?_, rfl,
    ?_, by decide +kernel⟩
  · simp [reportAt]
  · exact ⟨[], ['1'], "8446744073709551616".toList, by decide +kernel, ⟨rfl, rfl⟩, ⟨rfl, rfl⟩,
      by decide +kernel⟩

end Numbers

end SourceDiagnostics
