import SourceDiagnostics.Numbers.Check
import SourceDiagnostics.Proofs.Conversion
import SourceDiagnostics.Proofs.DescriptionLines
import SourceDiagnostics.Proofs.Places
import SourceDiagnostics.Proofs.Reading

/-!
# Reports about numbers

Each failure of a text of numbers is told of by one report, at the one character where the
failure lies. What the report holds depends on the kind of failure alone and is stated here in
full. As failures lie one behind the other, so do their reports.
-/

namespace SourceDiagnostics

open Text

namespace Numbers

namespace Problem

/-- A problem is put in words on one line. -/
theorem lines_toText (problem : Problem) : lines problem.toText = [problem.toText] := by
  cases problem with
  | strayCharacter found =>
    apply lines_eq_singleton
    · simp [toText]
    · have := lineFeed_not_mem_escapeChar .unicode [singleQuote] true found
      simpa [toText, quoteChar, singleQuote] using this
  | tooLarge digits =>
    apply lines_eq_singleton
    · simp [toText]
    · rw [toText, String.toList_append, String.toList_append, List.mem_append, List.mem_append]
      rintro ((h | h) | h)
      · revert h
        decide
      · rw [Nat.toString_eq_repr, Nat.toList_repr] at h
        have := Nat.isDigit_of_mem_toDigits (by decide) (by decide) h
        revert this
        decide
      · revert h
        decide

end Problem

/-! ### Where failures lie -/

/-- A word that is no number fails at one of its characters, in one of three ways. -/
theorem wordFailure?_eq_some {word : Word} {failure : Failure Problem}
    (h : wordFailure? word = some failure) :
    (∃ found tail, word.chars = found :: tail ∧
      failure = missing word.offset (.literal (.singleton found))) ∨
    (∃ digits found tail, word.chars = digits ++ found :: tail ∧
      failure = .payload (word.offset + utf8Length digits) (.strayCharacter found)) ∨
    failure = .payload word.offset (.tooLarge word.chars.length) := by
  have hchars : word.chars.takeWhile Char.isDigit ++ word.chars.dropWhile Char.isDigit =
      word.chars := List.takeWhile_append_dropWhile
  simp only [wordFailure?, wordOutcome] at h
  split at h
  · cases h
  next error he =>
  obtain rfl := Option.some.inj h
  split at he
  · next digits htake hdrop =>
    split at he
    · cases he
    · exact .inr (.inr (Except.error.inj he).symm)
  · next found tail htake hdrop =>
    rw [htake, hdrop, List.nil_append] at hchars
    exact .inl ⟨found, tail, hchars.symm, (Except.error.inj he).symm⟩
  · next digits found tail hdrop _ =>
    rw [hdrop] at hchars
    exact .inr (.inl ⟨_, found, tail, hchars.symm, (Except.error.inj he).symm⟩)

/-- A word fails at one of its characters. -/
theorem bounds_of_wordFailure? {word : Word} {failure : Failure Problem}
    (hne : word.chars ≠ []) (h : wordFailure? word = some failure) :
    word.offset ≤ failure.offset ∧ failure.offset < word.offset + utf8Length word.chars := by
  have hpos := utf8Length_pos hne
  obtain ⟨found, tail, -, rfl⟩ | ⟨digits, found, tail, hchars, rfl⟩ | rfl :=
    wordFailure?_eq_some h
  · show word.offset ≤ word.offset ∧ word.offset < word.offset + utf8Length word.chars
    omega
  · have := found.utf8Size_pos
    have hlength := congrArg utf8Length hchars
    rw [utf8Length_append, utf8Length_cons] at hlength
    show word.offset ≤ word.offset + utf8Length digits ∧
      word.offset + utf8Length digits < word.offset + utf8Length word.chars
    omega
  · show word.offset ≤ word.offset ∧ word.offset < word.offset + utf8Length word.chars
    omega

/-- The failures of a text lie one behind the other. -/
theorem pairwise_offset_failures (text : String) :
    (read text).failures.Pairwise (·.offset < ·.offset) := by
  rw [failures_read]
  split
  · exact List.pairwise_singleton _ _
  · rw [List.pairwise_filterMap]
    apply (pairwise_wordsFrom 0 text.toList).imp_of_mem
    intro first second hfirst hsecond hle failure hfailure failure' hfailure'
    obtain ⟨_, _, -, -, hne, -⟩ := mem_wordsFrom_iff.mp hfirst
    obtain ⟨_, _, -, -, hne', -⟩ := mem_wordsFrom_iff.mp hsecond
    have := (bounds_of_wordFailure? hne hfailure).2
    have := (bounds_of_wordFailure? hne' hfailure').1
    omega

/-- What can fail in front of some characters. -/
inductive FailsBefore (back : List Char) : Failure Problem → Prop
  | missing (offset : Nat) (item : Item) : FailsBefore back (missing offset item)
  | stray {found : Char} {rest : List Char} (offset : Nat) (hback : back = found :: rest)
      (hfeed : found ≠ '\n') : FailsBefore back (.payload offset (.strayCharacter found))
  | tooLarge (offset digits : Nat) : FailsBefore back (.payload offset (.tooLarge digits))

private theorem ne_lineFeed_of_isBlank {c : Char} (h : isBlank c = false) : c ≠ '\n' := by
  rintro rfl
  revert h
  decide

/-- Each failure of a text lies between two of its characters or at one of its ends. -/
theorem failsBefore_of_mem_failures {text : String} {failure : Failure Problem}
    (h : failure ∈ (read text).failures) :
    ∃ front back, text.toList = front ++ back ∧ failure.offset = utf8Length front ∧
      FailsBefore back failure := by
  rw [failures_read] at h
  split at h
  · obtain rfl := List.mem_singleton.mp h
    exact ⟨text.toList, [], (List.append_nil _).symm, (utf8Length_toList text).symm, .missing _ _⟩
  obtain ⟨word, hword, hfailure⟩ := List.mem_filterMap.mp h
  obtain ⟨front, back, htext, hoffset, -, hblank, -⟩ := mem_wordsFrom_iff.mp hword
  rw [Nat.zero_add] at hoffset
  obtain ⟨found, tail, hchars, rfl⟩ | ⟨digits, found, tail, hchars, rfl⟩ | rfl :=
    wordFailure?_eq_some hfailure
  · exact ⟨front, word.chars ++ back, by rw [htext, List.append_assoc], hoffset, .missing _ _⟩
  · have hfeed : found ≠ '\n' := ne_lineFeed_of_isBlank (hblank found (by rw [hchars]; simp))
    refine ⟨front ++ digits, found :: (tail ++ back), ?_, ?_, .stray _ rfl hfeed⟩
    · rw [htext, hchars, List.append_assoc, List.append_assoc, List.append_assoc, List.cons_append]
    · rw [utf8Length_append, ← hoffset]
      rfl
  · exact ⟨front, word.chars ++ back, by rw [htext, List.append_assoc], hoffset, .tooLarge _ _⟩

/-! ### One report for each failure -/

/-- The span of the one character behind some characters of a file. -/
structure IsPointBehind (file : String) (front : List Char) (span : Span) : Prop where
  start : span.start.IsBehind front
  stopLine : span.stop.line = span.start.line
  stopColumn : span.stop.column.toNat = min (span.start.column.toNat + 1) (UInt32.size - 1)
  file : span.file = file

/-- What a report at a span says of a failure. -/
inductive Tells (source : Source) (headline : String) (span : Span) :
    Failure Problem → Report → Prop
  | missing (offset : Nat) (item : Item) :
    Tells source headline span (.mismatch offset (some item) [.label "digit"])
      ⟨.error, some "E1000", headline,
        [⟨span, ⟨.primary, "unexpected " ++ item.toText⟩⟩, ⟨span, ⟨.secondary, "expecting digit"⟩⟩],
        []⟩
  | stray {found : Char} (offset : Nat)
      (hfound : charAt? source.text.toList span.start = some found) :
    Tells source headline span (.payload offset (.strayCharacter found))
      ⟨.error, some "E1001", headline, [⟨span, ⟨.primary, (Problem.strayCharacter found).toText⟩⟩],
        [⟨.hint, "numbers may only contain the digits 0-9; separate numbers with whitespace"⟩]⟩
  | tooLarge (offset digits : Nat) :
    Tells source headline span (.payload offset (.tooLarge digits))
      ⟨.error, some "E1002", headline,
        [⟨span, ⟨.primary, (Problem.tooLarge digits).toText⟩⟩,
          ⟨span, ⟨.suggestion, "18446744073709551615"⟩⟩],
        [⟨.note, "the largest supported number is 18446744073709551615"⟩]⟩

/-- A report tells of a failure of a source: all its marks are at the one character where the
failure lies. -/
def IsToldBy (source : Source) (headline : String) (failure : Failure Problem) (report : Report) :
    Prop :=
  ∃ front back span, source.text.toList = front ++ back ∧ failure.offset = utf8Length front ∧
    IsPointBehind source.file front span ∧ Tells source headline span failure report

private theorem isPointBehind_point {place : Place} {front : List Char} (file : String)
    (h : place.IsBehind front) : IsPointBehind file front (.point ⟨place, file⟩) where
  start := h
  stopLine := rfl
  stopColumn := Numbering.toNat_nextOrGreatest place.column
  file := rfl

/-- A problem is described in one line. -/
theorem gaveUpLines_payload (problem : Problem) :
    gaveUpLines [Reason.payload problem] = [problem.toText] := by
  rw [gaveUpLines, if_neg (by simp), Reason.arrange_singleton, List.flatMap_singleton]
  exact problem.lines_toText

/-- A problem contributes its report under its own code, with its hints. -/
theorem toDiagnostic_payload (offset : Nat) (problem : Problem) (heading : Heading)
    (span : Span) :
    (Failure.payload offset problem).toDiagnostic .error heading span =
      .concat [.ofReports [problem.reshape ⟨.error, heading.code, heading.headline,
        [⟨span, ⟨.primary, problem.toText⟩⟩], problem.hints⟩ span]] := by
  have hdescription : (Failure.payload offset problem).description = [problem.toText] :=
    gaveUpLines_payload problem
  rw [Failure.payload, Failure.gaveUp] at hdescription ⊢
  simp only [Failure.toDiagnostic, Reason.arrange_singleton, Failure.bareReport, hdescription,
    List.flatMap_singleton]
  rfl

/-- The heading under which numbers are checked. -/
private abbrev headingOf (headline : String) : Heading :=
  { headline, code := some Code.numberExpected.name }

/-- A failure that is located where it lies contributes one report, which tells of it, and no
files. -/
theorem isToldBy_toDiagnostic {source : Source} {failure : Failure Problem}
    {front back : List Char} {place : Place} (headline : String)
    (htext : source.text.toList = front ++ back) (hoffset : failure.offset = utf8Length front)
    (hfails : FailsBefore back failure) (hplace : place.IsBehind front) :
    ∃ report, IsToldBy source headline failure report ∧
      (failure.toDiagnostic .error (headingOf headline) (.point ⟨place, source.file⟩)).reports =
        [report] ∧
      ∀ name, (failure.toDiagnostic .error (headingOf headline)
        (.point ⟨place, source.file⟩)).file? name = none := by
  have hpoint := isPointBehind_point source.file hplace
  cases hfails with
  | missing offset item =>
    refine ⟨_, ⟨front, back, _, htext, hoffset, hpoint, .missing offset item⟩, rfl, ?_⟩
    exact fun name ↦ Diagnostic.file?_ofReports _ name
  | @stray found rest offset hback hfeed =>
    have hfound : charAt? source.text.toList place = some found := by
      rw [htext, hback]
      exact charAt?_of_isBehind hplace hfeed
    refine ⟨_, ⟨front, back, _, htext, hoffset, hpoint, .stray offset hfound⟩, ?_, ?_⟩
    · rw [toDiagnostic_payload, Diagnostic.reports_concat]
      rfl
    · intro name
      rw [toDiagnostic_payload, Diagnostic.file?_concat]
      rfl
  | tooLarge offset digits =>
    refine ⟨_, ⟨front, back, _, htext, hoffset, hpoint, .tooLarge offset digits⟩, ?_, ?_⟩
    · rw [toDiagnostic_payload, Diagnostic.reports_concat]
      rfl
    · intro name
      rw [toDiagnostic_payload, Diagnostic.file?_concat]
      rfl

/-- Failures that lie in a source are all located, and each of them has its report. -/
theorem isToldBy_located {source : Source} {failures : List (Failure Problem)} (headline : String)
    (hsize : source.text.utf8ByteSize < UInt32.size - 1)
    (h : ∀ failure ∈ failures, ∃ front back, source.text.toList = front ++ back ∧
      failure.offset = utf8Length front ∧ FailsBefore back failure) :
    ∃ diagnostic, Diagnostic.ofErrors (headingOf headline) source.locate failures =
        .ok diagnostic ∧
      List.Forall₂ (IsToldBy source headline) failures diagnostic.reports ∧
      ∀ name, diagnostic.file? name = none := by
  obtain ⟨located, hlocated, htolds⟩ : ∃ located : List (Failure Problem × Location),
      (failures.mapM fun failure ↦ do
        let location ← source.locate failure.offset
        return (failure, location)) = .ok located ∧
      List.Forall₂ (IsToldBy source headline) failures
        (Diagnostic.ofLocated (fun _ ↦ true) (headingOf headline) located).reports ∧
      ∀ name, (Diagnostic.ofLocated (fun _ ↦ true) (headingOf headline) located).file? name =
        none := by
    induction failures with
    | nil => exact ⟨[], rfl, .nil, Diagnostic.file?_empty⟩
    | cons failure failures ih =>
      obtain ⟨front, back, htext, hoffset, hfails⟩ := h failure List.mem_cons_self
      obtain ⟨place, hlocate, hplace⟩ := Source.locate_utf8Length htext hsize
      obtain ⟨report, htold, hreports, hfiles⟩ :=
        isToldBy_toDiagnostic headline htext hoffset hfails hplace
      obtain ⟨located, hlocated, htolds, hnone⟩ :=
        ih fun other hm ↦ h other (List.mem_cons_of_mem failure hm)
      refine ⟨(failure, ⟨place, source.file⟩) :: located, ?_, ?_, ?_⟩
      · rw [List.mapM_cons, hlocated, hoffset, hlocate]
        rfl
      · rw [Diagnostic.reports_ofLocated_cons, if_pos rfl, hreports]
        exact .cons htold htolds
      · intro name
        rw [Diagnostic.file?_ofLocated_cons, if_pos rfl, hnone, hfiles]
        rfl
  refine ⟨_, ?_, htolds⟩
  rw [Diagnostic.ofErrors, Diagnostic.ofFailures_eq, hlocated]
  rfl

/-! ### The order of the reports -/

/-- Of two failures of a source, the reports of the one that lies in front are in front. -/
theorem compare_of_isToldBy {source : Source} {headline : String} {first second : Failure Problem}
    {report other : Report} (hfirst : IsToldBy source headline first report)
    (hsecond : IsToldBy source headline second other) (h : first.offset < second.offset) :
    ∀ marked ∈ report.annotations, ∀ next ∈ other.annotations,
      compare marked.span.start next.span.start = .lt := by
  obtain ⟨front, back, span, htext, hoffset, hspan, htells⟩ := hfirst
  obtain ⟨front', back', span', htext', hoffset', hspan', htells'⟩ := hsecond
  have hmarked : ∀ marked ∈ report.annotations, marked.span = span := by
    cases htells <;> simp
  have hnext : ∀ next ∈ other.annotations, next.span = span' := by
    cases htells' <;> simp
  obtain ⟨more, rfl⟩ : ∃ more, front' = front ++ more := by
    obtain ⟨more, hmore, -⟩ | ⟨more, hmore, -⟩ :=
      List.append_eq_append_iff.mp (htext.symm.trans htext')
    · exact ⟨more, hmore⟩
    · rw [hoffset, hoffset', hmore, utf8Length_append] at h
      omega
  have hmore : more ≠ [] := by
    rintro rfl
    rw [hoffset, hoffset', List.append_nil] at h
    exact Nat.lt_irrefl _ h
  intro marked hm next hn
  rw [hmarked marked hm, hnext next hn]
  exact Place.compare_of_isBehind hspan.start hspan'.start hmore

/-- What is related to listed items comes from one of them. -/
theorem exists_mem_of_forall₂ {α β : Type} {R : α → β → Prop} {items : List α}
    {others : List β} (h : List.Forall₂ R items others) {b : β} (hb : b ∈ others) :
    ∃ a ∈ items, R a b := by
  induction h with
  | nil => exact absurd hb List.not_mem_nil
  | cons hab hrest ih =>
    rcases List.mem_cons.mp hb with rfl | hb
    · exact ⟨_, List.mem_cons_self, hab⟩
    · obtain ⟨a, ha, hr⟩ := ih hb
      exact ⟨a, List.mem_cons_of_mem _ ha, hr⟩

private theorem pairwise_of_forall₂ {α β : Type} {R : α → β → Prop} {P : α → α → Prop}
    {Q : β → β → Prop} {items : List α} {others : List β} (h : List.Forall₂ R items others)
    (hpairwise : items.Pairwise P) (himp : ∀ a b c d, R a b → R c d → P a c → Q b d) :
    others.Pairwise Q := by
  induction h with
  | nil => exact .nil
  | cons hab hrest ih =>
    obtain ⟨hhead, htail⟩ := List.pairwise_cons.mp hpairwise
    refine List.pairwise_cons.mpr ⟨?_, ih htail⟩
    intro d hd
    obtain ⟨c, hc, hcd⟩ := exists_mem_of_forall₂ hrest hd
    exact himp _ _ _ _ hab hcd (hhead c hc)

private theorem toText_ne_unknownError (problem : Problem) :
    problem.toText ≠ "<<Unknown error>>" := by
  cases problem with
  | strayCharacter found =>
    rw [Problem.toText, String.append_assoc]
    exact append_ne_unknownError _ rfl (by decide)
  | tooLarge digits =>
    rw [Problem.toText, String.append_assoc]
    exact append_ne_unknownError _ rfl (by decide)

/-- No report has the message for what does not fit. -/
theorem message_ne_of_isToldBy {source : Source} {headline : String} {failure : Failure Problem}
    {report : Report} (h : IsToldBy source headline failure report) :
    ∀ marked ∈ report.annotations, marked.marker.message ≠ "<<Unknown error>>" := by
  obtain ⟨front, back, span, -, -, -, htells⟩ := h
  cases htells with
  | missing offset item =>
    rw [List.forall_mem_cons, List.forall_mem_singleton]
    refine ⟨append_ne_unknownError _ rfl (by decide), ?_⟩
    show "expecting digit" ≠ "<<Unknown error>>"
    decide
  | @stray found offset hfound =>
    rw [List.forall_mem_singleton]
    exact toText_ne_unknownError (.strayCharacter found)
  | tooLarge offset digits =>
    rw [List.forall_mem_cons, List.forall_mem_singleton]
    refine ⟨toText_ne_unknownError (.tooLarge digits), ?_⟩
    show "18446744073709551615" ≠ "<<Unknown error>>"
    decide

/-! ### Checking a source -/

/-- The reports of a verdict; one that accepts has none. -/
def Verdict.reports : Verdict → List Report
  | .accepted _ => []
  | .rejected diagnostic => diagnostic.reports

/-- The reports of the verdict on a source are those that come of checking it. -/
theorem reports_eq_of_check {source : Source} {headline : String} {verdict : Verdict}
    {reports : List Report} (hcheck : check source headline = .ok verdict)
    (hreports : (check source headline).map Verdict.reports = .ok reports) :
    verdict.reports = reports := by
  rw [hcheck] at hreports
  exact Except.ok.inj hreports

/-- A source without failures is accepted with its numbers. -/
theorem check_of_failures_eq_nil {source : Source} (headline : String)
    (h : (read source.text).failures = []) :
    check source headline = .ok (.accepted (read source.text).numbers) := by
  rw [check, if_pos (by rw [Reading.succeeded, h]; rfl)]

/-- A source with failures is rejected with its text under its file name and a report for each
failure. -/
theorem check_of_failures_ne_nil {source : Source} (headline : String)
    (hsize : source.text.utf8ByteSize < UInt32.size - 1) (h : (read source.text).failures ≠ []) :
    ∃ diagnostic, check source headline = .ok (.rejected diagnostic) ∧
      (∀ name, diagnostic.file? name = if name = source.file then some source.text else none) ∧
      List.Forall₂ (IsToldBy source headline) (read source.text).failures diagnostic.reports := by
  obtain ⟨diagnostic, hok, htold, hfiles⟩ := isToldBy_located headline hsize
    fun failure ↦ @failsBefore_of_mem_failures source.text failure
  refine ⟨diagnostic.addFile source.file source.text, ?_, ?_, htold⟩
  · unfold check
    rw [if_neg (by simpa [Reading.succeeded] using h)]
    show (Diagnostic.ofErrors (headingOf headline) source.locate (read source.text).failures >>=
      fun found ↦ pure (Verdict.rejected (found.addFile source.file source.text))) = _
    rw [hok]
    rfl
  · intro name
    rw [Diagnostic.file?_addFile, hfiles]

/-- A source is accepted, with its numbers, exactly if it has no failures. Otherwise it is rejected
with its text under its file name and one report for each failure, in their order. Each report
tells of its failure at the one character where that lies, none has the message for what does
not fit, and each lies behind the ones before it. -/
theorem check_reports {source : Source} (headline : String)
    (hsize : source.text.utf8ByteSize < UInt32.size - 1) :
    (check source headline = .ok (.accepted (read source.text).numbers) ↔
      (read source.text).failures = []) ∧
    ((read source.text).failures ≠ [] → ∃ diagnostic,
      check source headline = .ok (.rejected diagnostic) ∧
      (∀ name, diagnostic.file? name = if name = source.file then some source.text else none) ∧
      List.Forall₂ (IsToldBy source headline) (read source.text).failures diagnostic.reports ∧
      (∀ report ∈ diagnostic.reports, ∀ marked ∈ report.annotations,
        marked.marker.message ≠ "<<Unknown error>>") ∧
      diagnostic.reports.Pairwise fun report other ↦
        ∀ marked ∈ report.annotations, ∀ next ∈ other.annotations,
          compare marked.span.start next.span.start = .lt) := by
  refine ⟨⟨?_, check_of_failures_eq_nil headline⟩, ?_⟩
  · intro haccepted
    apply Classical.byContradiction
    intro hne
    obtain ⟨diagnostic, hrejected, -⟩ := check_of_failures_ne_nil headline hsize hne
    rw [hrejected] at haccepted
    cases haccepted
  · intro hne
    obtain ⟨diagnostic, hrejected, hfiles, htold⟩ := check_of_failures_ne_nil headline hsize hne
    refine ⟨diagnostic, hrejected, hfiles, htold, ?_, ?_⟩
    · intro report hreport
      obtain ⟨failure, -, h⟩ := exists_mem_of_forall₂ htold hreport
      exact message_ne_of_isToldBy h
    · exact pairwise_of_forall₂ htold (pairwise_offset_failures source.text)
        fun _ _ _ _ hfirst hsecond ↦ compare_of_isToldBy hfirst hsecond

/-- A source with a failure of each kind. -/
theorem check_reports_three :
    "x 3é4\n18446744073709551616 7".utf8ByteSize < UInt32.size - 1 ∧
      (read "x 3é4\n18446744073709551616 7").failures ≠ [] ∧
      ∃ diagnostic,
        check ⟨"a.txt", "x 3é4\n18446744073709551616 7"⟩ "bad numbers" =
          .ok (.rejected diagnostic) ∧
        diagnostic.file? "a.txt" = some "x 3é4\n18446744073709551616 7" ∧
        diagnostic.reports =
          [⟨.error, some "E1000", "bad numbers",
              [⟨⟨⟨1, 1⟩, ⟨1, 2⟩, "a.txt"⟩, ⟨.primary, "unexpected 'x'"⟩⟩,
                ⟨⟨⟨1, 1⟩, ⟨1, 2⟩, "a.txt"⟩, ⟨.secondary, "expecting digit"⟩⟩], []⟩,
            ⟨.error, some "E1001", "bad numbers",
              [⟨⟨⟨1, 4⟩, ⟨1, 5⟩, "a.txt"⟩, ⟨.primary, "unexpected 'é' in number"⟩⟩],
              [⟨.hint,
                "numbers may only contain the digits 0-9; separate numbers with whitespace"⟩]⟩,
            ⟨.error, some "E1002", "bad numbers",
              [⟨⟨⟨2, 1⟩, ⟨2, 2⟩, "a.txt"⟩,
                  ⟨.primary, "number with 20 digits does not fit in 64 bits"⟩⟩,
                ⟨⟨⟨2, 1⟩, ⟨2, 2⟩, "a.txt"⟩, ⟨.suggestion, "18446744073709551615"⟩⟩],
              [⟨.note, "the largest supported number is 18446744073709551615"⟩]⟩] := by
  have hsize : "x 3é4\n18446744073709551616 7".utf8ByteSize < UInt32.size - 1 := by decide
  have hne : (read "x 3é4\n18446744073709551616 7").failures ≠ [] := by decide +kernel
  obtain ⟨diagnostic, hok, hfiles, -⟩ :=
    (@check_reports ⟨"a.txt", "x 3é4\n18446744073709551616 7"⟩ "bad numbers" hsize).2 hne
  refine ⟨hsize, hne, diagnostic, hok, hfiles "a.txt", reports_eq_of_check hok ?_⟩
  decide +kernel

end Numbers

end SourceDiagnostics
