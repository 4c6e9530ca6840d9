import SourceDiagnostics.Proofs.Checking

/-!
# Checking joined texts

Two texts, each with a word in it, are joined by a line feed. Checking them together comes to what
checking them apart comes to: the numbers follow each other, and so do the reports, with those of
the second text as many lines further down as the first text and the line feed take up. What fails
in the first text thus neither hides nor displaces anything in the second one.
-/

namespace SourceDiagnostics

open Text

/-! ### Further down -/

/-- A place is that many lines below another one, in the same column. -/
structure Place.IsBelow (lines : Nat) (place below : Place) : Prop where
  line : below.line.toNat = place.line.toNat + lines
  column : below.column = place.column

/-- A span is that many lines below another one of the same file. -/
structure Span.IsBelow (lines : Nat) (span below : Span) : Prop where
  start : span.start.IsBelow lines below.start
  stop : span.stop.IsBelow lines below.stop
  file : below.file = span.file

/-- A marked span is that many lines below another one and has the same marker. -/
structure MarkedSpan.IsBelow (lines : Nat) (marked below : MarkedSpan) : Prop where
  span : marked.span.IsBelow lines below.span
  marker : below.marker = marked.marker

/-- All marks of a report are that many lines below those of another one, and nothing else about it
is different. -/
structure Report.IsBelow (lines : Nat) (report below : Report) : Prop where
  severity : below.severity = report.severity
  code : below.code = report.code
  headline : below.headline = report.headline
  annotations : List.Forall₂ (MarkedSpan.IsBelow lines) report.annotations below.annotations
  notes : below.notes = report.notes

theorem Place.IsBelow.eq {place below : Place} (h : place.IsBelow 0 below) : below = place := by
  cases place
  cases below
  rw [Place.mk.injEq, ← UInt32.toNat_inj]
  exact ⟨h.line, h.column⟩

theorem Span.IsBelow.eq {span below : Span} (h : span.IsBelow 0 below) : below = span := by
  cases span
  cases below
  rw [Span.mk.injEq]
  exact ⟨h.start.eq, h.stop.eq, h.file⟩

theorem MarkedSpan.IsBelow.eq {marked below : MarkedSpan} (h : marked.IsBelow 0 below) :
    below = marked := by
  cases marked
  cases below
  rw [MarkedSpan.mk.injEq]
  exact ⟨h.span.eq, h.marker⟩

private theorem eq_of_forall₂ {α : Type} {R : α → α → Prop} {items others : List α}
    (h : List.Forall₂ R items others) (heq : ∀ a b, R a b → b = a) : others = items := by
  have hsame : List.Forall₂ (· = ·) items others := h.imp fun a b hab ↦ (heq a b hab).symm
  rw [List.forall₂_eq_eq_eq] at hsame
  exact hsame.symm

/-- A report that is no lines below another one is the same report. -/
theorem Report.IsBelow.eq {report below : Report} (h : report.IsBelow 0 below) :
    below = report := by
  cases report
  cases below
  rw [Report.mk.injEq]
  have hannotations := eq_of_forall₂ h.annotations fun _ _ ↦ MarkedSpan.IsBelow.eq
  exact ⟨h.severity, h.code, h.headline, hannotations, h.notes⟩

/-- The same failure that many bytes further behind. -/
def Failure.moved {ε : Type} (distance : Nat) (failure : Failure ε) : Failure ε :=
  { failure with offset := distance + failure.offset }

theorem Failure.moved_zero {ε : Type} (failure : Failure ε) : failure.moved 0 = failure := by
  rw [moved, Nat.zero_add]

/-! ### Characters in front -/

namespace Text

/-- What stands before a line feed has no part in the line behind it. -/
theorem lastLine_append {before chars : List Char} (h : lastLine before = []) :
    lastLine (before ++ chars) = lastLine chars := by
  induction chars using List.reverseRecOn with
  | nil => rw [List.append_nil, h, lastLine, List.rtakeWhile_nil]
  | append_singleton chars c ih =>
    rw [← List.append_assoc]
    unfold lastLine at ih ⊢
    by_cases hc : c = '\n'
    · rw [List.rtakeWhile_concat_neg _ _ _ (by simpa using hc),
        List.rtakeWhile_concat_neg _ _ _ (by simpa using hc)]
    · rw [List.rtakeWhile_concat_pos _ _ _ (by simpa using hc),
        List.rtakeWhile_concat_pos _ _ _ (by simpa using hc), ih]

end Text

namespace Numbers

private theorem isBelow_of_isPointBehind {file : String} {before front : List Char}
    {span below : Span} (h : lastLine before = []) (hspan : IsPointBehind file front span)
    (hbelow : IsPointBehind file (before ++ front) below) :
    span.IsBelow (before.count '\n') below := by
  have hline : below.start.line.toNat = span.start.line.toNat + before.count '\n' := by
    rw [hspan.start.line, hbelow.start.line, List.count_append]
    omega
  have hcolumn : below.start.column = span.start.column := by
    rw [← UInt32.toNat_inj, hspan.start.column, hbelow.start.column, lastLine_append h]
  constructor
  · exact ⟨hline, hcolumn⟩
  · constructor
    · rw [hspan.stopLine, hbelow.stopLine, hline]
    · rw [← UInt32.toNat_inj, hspan.stopColumn, hbelow.stopColumn, hcolumn]
  · rw [hspan.file, hbelow.file]

private theorem isBelow_of_tells {source other : Source} {headline : String} {span below : Span}
    {failure : Failure Problem} {report next : Report} {lines distance : Nat}
    (hspan : span.IsBelow lines below) (h : Tells source headline span failure report)
    (hnext : Tells other headline below (failure.moved distance) next) :
    report.IsBelow lines next := by
  have hmarked (marker : Marker) : MarkedSpan.IsBelow lines ⟨span, marker⟩ ⟨below, marker⟩ :=
    ⟨hspan, rfl⟩
  generalize hmoved : failure.moved distance = moved at hnext
  have hcause : failure.cause = moved.cause := by rw [← hmoved, Failure.moved]
  cases h with
  | missing offset item =>
    cases hnext with
    | missing offset' item' =>
      cases hcause
      exact ⟨rfl, rfl, rfl, .cons (hmarked _) (.cons (hmarked _) .nil), rfl⟩
    | stray => cases hcause
    | tooLarge => cases hcause
  | stray offset hfound =>
    cases hnext with
    | missing => cases hcause
    | stray =>
      cases hcause
      exact ⟨rfl, rfl, rfl, .cons (hmarked _) .nil, rfl⟩
    | tooLarge => cases hcause
  | tooLarge offset digits =>
    cases hnext with
    | missing => cases hcause
    | stray => cases hcause
    | tooLarge =>
      cases hcause
      exact ⟨rfl, rfl, rfl, .cons (hmarked _) (.cons (hmarked _) .nil), rfl⟩

/-- Where a text is found whole at the beginning of a line of another text, what is told there of a
failure is what is told of it in the text by itself, only further down. -/
private theorem isBelow_of_isToldBy {file text other headline : String}
    {failure : Failure Problem} {report next : Report} {before behind : List Char}
    (hother : other.toList = before ++ (text.toList ++ behind)) (hbefore : lastLine before = [])
    (htold : IsToldBy ⟨file, text⟩ headline failure report)
    (hnext : IsToldBy ⟨file, other⟩ headline (failure.moved (utf8Length before)) next) :
    report.IsBelow (before.count '\n') next := by
  obtain ⟨front, back, span, hfront, hoffset, hspan, htells⟩ := htold
  obtain ⟨front', back', below, hfront', hoffset', hbelow, htells'⟩ := hnext
  have happend : before ++ front ++ (back ++ behind) = front' ++ back' := by
    rw [← hfront', hother, hfront, List.append_assoc, List.append_assoc]
  -- The characters before the failure are known by its offset, so that both texts agree on them.
  have hfronts : before ++ front = front' := by
    apply eq_of_utf8Length_eq happend
    rw [← hoffset', utf8Length_append, ← hoffset]
    rfl
  rw [← hfronts] at hbelow
  exact isBelow_of_tells (isBelow_of_isPointBehind hbefore hspan hbelow) htells htells'

private theorem forall₂_of_common {α β γ : Type} {R : α → β → Prop} {S : α → γ → Prop}
    {T : β → γ → Prop} {items : List α} {firsts : List β} {seconds : List γ}
    (hfirsts : List.Forall₂ R items firsts) (hseconds : List.Forall₂ S items seconds)
    (himp : ∀ a b c, R a b → S a c → T b c) : List.Forall₂ T firsts seconds := by
  induction hfirsts generalizing seconds with
  | nil =>
    cases hseconds
    exact .nil
  | cons hab _ ih =>
    cases hseconds with
    | cons hac hrest => exact .cons (himp _ _ _ hab hac) (ih hrest)

/-- What is told of some failures in a text that another text holds is what is told of them in the
text by itself, only further down. -/
private theorem forall₂_isBelow {file text other headline : String}
    {failures : List (Failure Problem)} {reports others : List Report} {before behind : List Char}
    (hother : other.toList = before ++ (text.toList ++ behind)) (hbefore : lastLine before = [])
    (htold : List.Forall₂ (IsToldBy ⟨file, text⟩ headline) failures reports)
    (hnext : List.Forall₂ (IsToldBy ⟨file, other⟩ headline)
      (failures.map (Failure.moved (utf8Length before))) others) :
    List.Forall₂ (Report.IsBelow (before.count '\n')) reports others := by
  rw [List.forall₂_map_left_iff] at hnext
  exact forall₂_of_common htold hnext fun _ _ _ ↦ isBelow_of_isToldBy hother hbefore

/-! ### The words of joined texts -/

/-- A word has the same outcome wherever it stands; only the offset of its failure goes along. -/
theorem wordOutcome_moved (distance : Nat) (word : Word) :
    wordOutcome (word.moved distance) = (wordOutcome word).mapError (Failure.moved distance) := by
  obtain ⟨offset, chars⟩ := word
  simp only [wordOutcome, Word.moved]
  cases chars.dropWhile Char.isDigit with
  | nil =>
    simp only
    split <;> rfl
  | cons found tail =>
    cases chars.takeWhile Char.isDigit with
    | nil => rfl
    | cons digit digits =>
      simp [Except.mapError, Failure.moved, Failure.payload, Failure.gaveUp, Nat.add_assoc]

theorem wordNumber?_moved (distance : Nat) (word : Word) :
    wordNumber? (word.moved distance) = wordNumber? word := by
  rw [wordNumber?, wordOutcome_moved, wordNumber?]
  cases wordOutcome word <;> rfl

theorem wordFailure?_moved (distance : Nat) (word : Word) :
    wordFailure? (word.moved distance) = (wordFailure? word).map (Failure.moved distance) := by
  rw [wordFailure?, wordOutcome_moved, wordFailure?]
  cases wordOutcome word <;> rfl

/-- The words of joined texts are those of the first one and then those of the second one. -/
theorem words_join (first second : String) :
    words (first ++ "\n" ++ second) =
      words first ++ (words second).map (Word.moved (utf8Length (first.toList ++ ['\n']))) := by
  have hchars : (first ++ "\n" ++ second).toList = first.toList ++ '\n' :: second.toList := by
    rw [String.toList_append, String.toList_append, List.append_assoc]
    rfl
  have hfeed : isBlank '\n' = true := by decide
  have hback : ∀ c ∈ ('\n' :: second.toList).head?, isBlank c = true := by
    rintro c ⟨⟩
    exact hfeed
  rw [words, hchars, wordsFrom_append hback, wordsFrom_blank hfeed, words, words, ← wordsFrom_add,
    utf8Length_append, Nat.zero_add]
  rfl

/-- The numbers of joined texts are those of the first one and then those of the second one. -/
theorem numbers_join (first second : String) :
    (read (first ++ "\n" ++ second)).numbers =
      (read first).numbers ++ (read second).numbers := by
  rw [numbers_read, numbers_read, numbers_read, words_join, List.filterMap_append,
    List.filterMap_map]
  congr 2
  funext word
  exact wordNumber?_moved _ word

private theorem words_ne_nil {text : String} (h : ∃ c ∈ text.toList, isBlank c = false) :
    words text ≠ [] := by
  obtain ⟨c, hc, hblank⟩ := h
  intro hnil
  rw [wordsFrom_eq_nil_iff.mp hnil c hc] at hblank
  cases hblank

/-- What fails in joined texts that both have words is what fails in the first one and then, further
behind, what fails in the second one. -/
theorem failures_join {first second : String}
    (hfirst : ∃ c ∈ first.toList, isBlank c = false)
    (hsecond : ∃ c ∈ second.toList, isBlank c = false) :
    (read (first ++ "\n" ++ second)).failures =
      (read first).failures ++
        (read second).failures.map (Failure.moved (utf8Length (first.toList ++ ['\n']))) := by
  have hjoined : words (first ++ "\n" ++ second) ≠ [] := by
    rw [words_join]
    simp [words_ne_nil hfirst]
  rw [failures_read, failures_read, failures_read, if_neg hjoined, if_neg (words_ne_nil hfirst),
    if_neg (words_ne_nil hsecond), words_join, List.filterMap_append, List.filterMap_map,
    List.map_filterMap]
  congr 2
  funext word
  exact wordFailure?_moved _ word

/-! ### Verdicts -/

/-- Whether there were no failures. -/
def Verdict.isAccepted : Verdict → Bool
  | .accepted _ => true
  | .rejected _ => false

/-- The verdict that a source calls for: without failures its numbers, and otherwise its text under
its file name and a report for each failure. -/
inductive Verdict.IsOn (source : Source) (headline : String) : Verdict → Prop
  | accepted (hnil : (read source.text).failures = []) :
    IsOn source headline (.accepted (read source.text).numbers)
  | rejected {diagnostic : Diagnostic} (hne : (read source.text).failures ≠ [])
      (hfiles : ∀ name,
        diagnostic.file? name = if name = source.file then some source.text else none)
      (htold : List.Forall₂ (IsToldBy source headline) (read source.text).failures
        diagnostic.reports) :
    IsOn source headline (.rejected diagnostic)

/-- Checking a source gives the verdict that it calls for. -/
theorem exists_verdict (source : Source) (headline : String)
    (hsize : source.text.utf8ByteSize < UInt32.size - 1) :
    ∃ verdict, check source headline = .ok verdict ∧ verdict.IsOn source headline := by
  by_cases hnil : (read source.text).failures = []
  · exact ⟨_, check_of_failures_eq_nil headline hnil, .accepted hnil⟩
  · obtain ⟨diagnostic, hcheck, hfiles, htold⟩ := check_of_failures_ne_nil headline hsize hnil
    exact ⟨_, hcheck, .rejected hnil hfiles htold⟩

theorem Verdict.IsOn.forall₂_isToldBy {source : Source} {headline : String} {verdict : Verdict}
    (h : verdict.IsOn source headline) :
    List.Forall₂ (IsToldBy source headline) (read source.text).failures verdict.reports := by
  cases h with
  | accepted hnil =>
    rw [hnil]
    exact .nil
  | rejected _ _ htold => exact htold

theorem Verdict.IsOn.isAccepted_iff {source : Source} {headline : String} {verdict : Verdict}
    (h : verdict.IsOn source headline) :
    verdict.isAccepted = true ↔ (read source.text).failures = [] := by
  cases h with
  | accepted hnil => simp [isAccepted, hnil]
  | rejected hne => simp [isAccepted, hne]

/-! ### The verdict on joined texts -/

/-- The verdict on a source that holds two texts, given the verdicts on the texts and the number of
lines that the first one takes up. -/
inductive Verdict.Joins (source : Source) (lines : Nat) : Verdict → Verdict → Verdict → Prop
  | accepted (numbers others : List UInt64) :
    Joins source lines (.accepted numbers) (.accepted others) (.accepted (numbers ++ others))
  | rejected {first second : Verdict} {diagnostic : Diagnostic} {moved : List Report}
      (hfailed : (first.isAccepted && second.isAccepted) = false)
      (hfiles : ∀ name,
        diagnostic.file? name = if name = source.file then some source.text else none)
      (hmoved : List.Forall₂ (Report.IsBelow lines) second.reports moved)
      (hreports : diagnostic.reports = first.reports ++ moved) :
    Joins source lines first second (.rejected diagnostic)

/-- The reports on joined texts are those on the first one and then those on the second one, which
are further down. -/
private theorem exists_reports_join {file headline first second : String}
    {front back reports : List Report}
    (hfront : List.Forall₂ (IsToldBy ⟨file, first⟩ headline) (read first).failures front)
    (hback : List.Forall₂ (IsToldBy ⟨file, second⟩ headline) (read second).failures back)
    (hreports : List.Forall₂ (IsToldBy ⟨file, first ++ "\n" ++ second⟩ headline)
      ((read first).failures ++
        (read second).failures.map (Failure.moved (utf8Length (first.toList ++ ['\n'])))) reports) :
    ∃ moved, List.Forall₂ (Report.IsBelow (first.toList.count '\n' + 1)) back moved ∧
      reports = front ++ moved := by
  have htake := List.forall₂_take (read first).failures.length hreports
  have hdrop := List.forall₂_drop (read first).failures.length hreports
  rw [List.take_left] at htake
  rw [List.drop_left] at hdrop
  -- The first text stands in front of everything else, so its reports are no lines further down.
  have hsame : reports.take (read first).failures.length = front := by
    have htext : (first ++ "\n" ++ second).toList =
        [] ++ (first.toList ++ '\n' :: second.toList) := by simp
    have hmoved : (read first).failures.map (Failure.moved (utf8Length [])) =
        (read first).failures := List.map_id'' Failure.moved_zero _
    have hsameLines := forall₂_isBelow htext rfl hfront (by rwa [hmoved])
    exact eq_of_forall₂ hsameLines fun _ _ ↦ Report.IsBelow.eq
  have hbelow : List.Forall₂ (Report.IsBelow (first.toList.count '\n' + 1)) back
      (reports.drop (read first).failures.length) := by
    have htext : (first ++ "\n" ++ second).toList =
        first.toList ++ ['\n'] ++ (second.toList ++ []) := by simp
    have hfeed : lastLine (first.toList ++ ['\n']) = [] :=
      List.rtakeWhile_concat_neg _ _ _ (by simp)
    have hlines : (first.toList ++ ['\n']).count '\n' = first.toList.count '\n' + 1 := by simp
    rw [← hlines]
    exact forall₂_isBelow htext hfeed hback hdrop
  exact ⟨_, hbelow, by rw [← hsame, List.take_append_drop]⟩

/-- Two texts that both hold more than blanks are checked together with the same result as apart. If
both are accepted, so are they together, with the numbers of the first one and then those of the
second one. Otherwise they are rejected together, with their whole text under the file name. The
reports are those on the first text and then those on the second one. The marks of the latter are
further down by the lines of the first text, and nothing else about them is different. -/
theorem check_join {file headline first second : String}
    (hfirst : ∃ c ∈ first.toList, isBlank c = false)
    (hsecond : ∃ c ∈ second.toList, isBlank c = false)
    (hsize : (first ++ "\n" ++ second).utf8ByteSize < UInt32.size - 1) :
    ∃ front back whole : Verdict,
      check ⟨file, first⟩ headline = .ok front ∧ check ⟨file, second⟩ headline = .ok back ∧
      check ⟨file, first ++ "\n" ++ second⟩ headline = .ok whole ∧
      Verdict.Joins ⟨file, first ++ "\n" ++ second⟩ (first.toList.count '\n' + 1)
        front back whole := by
  have hsizes : first.utf8ByteSize < UInt32.size - 1 ∧ second.utf8ByteSize < UInt32.size - 1 := by
    rw [String.utf8ByteSize_append, String.utf8ByteSize_append] at hsize
    omega
  obtain ⟨front, hcheckFront, hfront⟩ := exists_verdict ⟨file, first⟩ headline hsizes.1
  obtain ⟨back, hcheckBack, hback⟩ := exists_verdict ⟨file, second⟩ headline hsizes.2
  obtain ⟨whole, hcheckWhole, hwhole⟩ :=
    exists_verdict ⟨file, first ++ "\n" ++ second⟩ headline hsize
  refine ⟨front, back, whole, hcheckFront, hcheckBack, hcheckWhole, ?_⟩
  have hfailures := failures_join hfirst hsecond
  have hreports := hwhole.forall₂_isToldBy
  rw [hfailures] at hreports
  obtain ⟨moved, hmoved, hjoined⟩ :=
    exists_reports_join hfront.forall₂_isToldBy hback.forall₂_isToldBy hreports
  cases hwhole with
  | accepted hnil =>
    rw [hfailures, List.append_eq_nil_iff, List.map_eq_nil_iff] at hnil
    cases hfront with
    | rejected hne => exact absurd hnil.1 hne
    | accepted =>
      cases hback with
      | rejected hne => exact absurd hnil.2 hne
      | accepted =>
        rw [numbers_join]
        exact .accepted _ _
  | rejected hne hfiles =>
    refine .rejected ?_ hfiles hmoved hjoined
    rw [← Bool.not_eq_true, Bool.and_eq_true, hfront.isAccepted_iff, hback.isAccepted_iff]
    rintro ⟨hnilFront, hnilBack⟩
    apply hne
    rw [hfailures, hnilFront, hnilBack]
    rfl

/-- What is told of the text `x 3é` on a line of a file. -/
private def reportsOnLine (line : UInt32) : List Report :=
  [⟨.error, some "E1000", "bad numbers",
      [⟨⟨⟨line, 1⟩, ⟨line, 2⟩, "a.txt"⟩, ⟨.primary, "unexpected 'x'"⟩⟩,
        ⟨⟨⟨line, 1⟩, ⟨line, 2⟩, "a.txt"⟩, ⟨.secondary, "expecting digit"⟩⟩], []⟩,
    ⟨.error, some "E1001", "bad numbers",
      [⟨⟨⟨line, 4⟩, ⟨line, 5⟩, "a.txt"⟩, ⟨.primary, "unexpected 'é' in number"⟩⟩],
      [⟨.hint, "numbers may only contain the digits 0-9; separate numbers with whitespace"⟩]⟩]

/-- An accepted text of two lines in front of a rejected one, whose reports go from the first line
to the third. -/
theorem check_join_two :
    (∃ c ∈ "1\n2".toList, isBlank c = false) ∧ (∃ c ∈ "x 3é".toList, isBlank c = false) ∧
      ("1\n2" ++ "\n" ++ "x 3é").utf8ByteSize < UInt32.size - 1 ∧
      ∃ front back whole : Verdict,
        check ⟨"a.txt", "1\n2"⟩ "bad numbers" = .ok front ∧
        check ⟨"a.txt", "x 3é"⟩ "bad numbers" = .ok back ∧
        check ⟨"a.txt", "1\n2\nx 3é"⟩ "bad numbers" = .ok whole ∧
        Verdict.Joins ⟨"a.txt", "1\n2\nx 3é"⟩ 2 front back whole ∧
        front = .accepted [1, 2] ∧ back.reports = reportsOnLine 1 ∧
        whole.reports = reportsOnLine 3 := by
  have hfirst : ∃ c ∈ "1\n2".toList, isBlank c = false := ⟨'1', by decide, by decide⟩
  have hsecond : ∃ c ∈ "x 3é".toList, isBlank c = false := ⟨'x', by decide, by decide⟩
  have hsize : ("1\n2" ++ "\n" ++ "x 3é").utf8ByteSize < UInt32.size - 1 := by decide
  obtain ⟨front, back, whole, hfront, hback, hwhole, hjoins⟩ :=
    @check_join "a.txt" "bad numbers" "1\n2" "x 3é" hfirst hsecond hsize
  refine ⟨hfirst, hsecond, hsize, front, back, whole, hfront, hback, hwhole, hjoins,
    Except.ok.inj (hfront.symm.trans ?_), reports_eq_of_check hback ?_,
    reports_eq_of_check hwhole ?_⟩
  · decide +kernel
  · decide +kernel
  · decide +kernel

end Numbers

end SourceDiagnostics
