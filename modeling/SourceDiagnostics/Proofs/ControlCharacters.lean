import SourceDiagnostics.Proofs.Combining
import SourceDiagnostics.Proofs.Joining
import SourceDiagnostics.Proofs.Json.Layout

/-!
# Control characters in messages

Texts of the input are quoted in messages in two ways. Where a character is a problem of its own, or
where a text has several characters, control characters are escaped. A text of one character is
shown by its name or as it is, so the control characters without a name come through. In the reports
about a source, these are the ones that a word begins with.
-/

namespace SourceDiagnostics

namespace Text

/-- The control characters of a text. -/
def controls (text : String) : List Char := text.toList.filter isControl

theorem controls_append (front back : String) :
    controls (front ++ back) = controls front ++ controls back := by
  rw [controls, String.toList_append, List.filter_append]
  rfl

theorem controls_eq_nil_iff {text : String} : controls text = [] ↔ IsInline text := by
  simp only [controls, List.filter_eq_nil_iff, Bool.not_eq_true]
  rfl

/-! ### Quoted texts -/

/-- Whether no control character counts as printable. -/
def Repertoire.EscapesControls (repertoire : Repertoire) : Prop :=
  ∀ c, isControl c = true → repertoire.isPrintable c = false

theorem Repertoire.escapesControls_unicode : EscapesControls .unicode :=
  fun _ ↦ isPrintable_eq_false_of_isControl

private theorem any_isControl_escapeCodePoint (c : Char) :
    (escapeCodePoint c).any isControl = false := by
  have hdigits : (Nat.toDigits 16 c.toNat).any isControl = false := by
    rw [List.any_eq_false]
    intro d hd
    rw [forall_mem_toDigits (isControl · = false) (by decide) c.toNat d hd]
    exact Bool.false_ne_true
  have hends : ['\\', 'u', '\x7b', '\x7d'].any isControl = false := by decide
  simpa [escapeCodePoint, hdigits] using hends

/-- No control character comes out of quoting a character. -/
theorem any_isControl_quoted {repertoire : Repertoire} (h : repertoire.EscapesControls)
    {quotes : List Char} (hquotes : quotes.any isControl = false) (atStart : Bool) (c : Char) :
    (escapeChar repertoire quotes atStart c).any isControl = false := by
  fun_cases escapeChar repertoire quotes atStart c with
  | case1 | case2 | case3 | case4 => decide
  | case5 _ _ _ _ hmark =>
    have hbackslash : isControl '\\' = false := by decide
    have hcontrol : isControl c = false := by
      rcases hmark with rfl | hquote
      · exact hbackslash
      · exact Bool.eq_false_iff.mpr (List.any_eq_false.mp hquotes c hquote)
    simp [hbackslash, hcontrol]
  | case6 _ _ _ _ _ hprintable =>
    rw [List.any_cons, List.any_nil, Bool.or_false, ← Bool.not_eq_true]
    intro hcontrol
    rw [h c hcontrol] at hprintable
    cases hprintable
  | case7 => exact any_isControl_escapeCodePoint c

private theorem isInline_ofList {chars : List Char} (h : chars.any isControl = false) :
    IsInline (.ofList chars) := by
  intro c hc
  rw [String.toList_ofList] at hc
  exact Bool.eq_false_iff.mpr (List.any_eq_false.mp h c hc)

/-- A quoted text stays within its line. -/
theorem isInline_quoteText {repertoire : Repertoire} (h : repertoire.EscapesControls)
    (text : String) : IsInline (quoteText repertoire text) := by
  have hquotes : [singleQuote, doubleQuote].any isControl = false := by decide
  have hquote : isControl doubleQuote = false := by decide
  have hescaped : (escapeChars repertoire text.toList).any isControl = false := by
    cases text.toList with
    | nil => rfl
    | cons first rest =>
      rw [escapeChars, List.any_append, any_isControl_quoted h hquotes, Bool.false_or,
        List.any_flatMap]
      simp [any_isControl_quoted h hquotes]
  apply isInline_ofList
  simp [hquote, hescaped]

/-- A quoted character stays within its line. -/
theorem isInline_quoteChar {repertoire : Repertoire} (h : repertoire.EscapesControls) (c : Char) :
    IsInline (quoteChar repertoire c) := by
  have hquotes : [singleQuote].any isControl = false := by decide
  have hquote : isControl singleQuote = false := by decide
  apply isInline_ofList
  simp [hquote, any_isControl_quoted h hquotes]

end Text

open Text

/-! ### Items -/

namespace Item

/-- Whether a character is shown as it is although it is a control character. -/
def showsControl (c : Char) : Bool := isControl c && (blankName? c).isNone

/-- The control characters that come through when a literal text is shown. -/
def rawControls (text : String) : List Char :=
  match text.toList with
  | [c] => [c].filter showsControl
  | _ => []

/-- Names have no control characters. -/
theorem isInline_blankName {c : Char} {name : String} (h : blankName? c = some name) :
    IsInline name := by
  revert h
  fun_cases blankName? c with
  | case1 | case2 | case3 | case4 | case5 =>
    rintro ⟨⟩
    decide
  | case6 =>
    intro h
    cases h

/-- Where a text has several characters or its only one has a name, no control character comes
through; otherwise the text is shown as it is. -/
theorem controls_literalText {repertoire : Repertoire} (h : repertoire.EscapesControls)
    (text : String) : controls (literalText repertoire text) = rawControls text := by
  rw [literalText]
  split
  · next hnil =>
    rw [rawControls, hnil]
    decide
  · next c hchar =>
    have hquote : isControl singleQuote = false := by decide
    rw [rawControls, hchar]
    cases hname : blankName? c with
    | some name =>
      have hinline := isInline_blankName hname
      rw [Option.getD_some, controls_eq_nil_iff.mpr hinline]
      simp [showsControl, hname]
    | none => simp [controls, showsControl, hname, hquote, List.filter_cons]
  · next hnil hone =>
    have hinline := isInline_quoteText h text
    rw [controls_eq_nil_iff.mpr hinline, rawControls]
    split
    · next c hchar => exact absurd hchar (hone c)
    · rfl

end Item

/-! ### Failures and their reports -/

/-- The control characters in what is said at the spans of a report. -/
def Report.controls (report : Report) : List Char :=
  report.annotations.flatMap fun marked ↦ Text.controls marked.marker.message

/-- The control characters in the description of a failure. -/
def Failure.controls {ε : Type} [Payload ε] [DecidableEq ε] (failure : Failure ε) : List Char :=
  failure.description.flatMap Text.controls

namespace Numbers

/-- A problem is put in words without control characters. -/
theorem Problem.isInline_toText (problem : Problem) : IsInline problem.toText := by
  cases problem with
  | strayCharacter found =>
    rw [toText, isInline_append, isInline_append]
    exact ⟨⟨by decide, isInline_quoteChar Repertoire.escapesControls_unicode found⟩, by decide⟩
  | tooLarge digits =>
    rw [toText, isInline_append, isInline_append]
    exact ⟨⟨by decide, isInline_decimal digits⟩, by decide⟩

theorem controls_missing (offset : Nat) (item : Item) :
    (missing offset item).controls = controls item.toText := by
  have hfront : controls "unexpected " = [] := by decide
  have hexpecting : controls "expecting digit" = [] := by decide
  show controls ("unexpected " ++ item.toText) ++ (controls "expecting digit" ++ []) = _
  rw [controls_append, hfront, hexpecting, List.nil_append, List.append_nil, List.append_nil]

theorem controls_payload (offset : Nat) (problem : Problem) :
    (Failure.payload offset problem).controls = [] := by
  show (gaveUpLines [Reason.payload problem]).flatMap controls = []
  rw [gaveUpLines_payload, List.flatMap_singleton]
  exact controls_eq_nil_iff.mpr problem.isInline_toText

/-- The control character that a word begins with, if it is shown as it is. -/
def rawControl? (word : Word) : Option Char := word.chars.head?.filter Item.showsControl

/-- A word that begins with a digit fails with a problem, if at all. -/
theorem exists_payload_of_isDigit {offset : Nat} {c : Char} {tail : List Char}
    {failure : Failure Problem} (hdigit : c.isDigit = true)
    (h : wordFailure? ⟨offset, c :: tail⟩ = some failure) :
    ∃ position problem, failure = .payload position problem := by
  simp only [wordFailure?, wordOutcome, List.takeWhile_cons_of_pos hdigit] at h
  split at h
  · cases h
  next houtcome =>
  obtain rfl := Option.some.inj h
  split at houtcome
  · split at houtcome
    · cases houtcome
    · exact ⟨_, _, (Except.error.inj houtcome).symm⟩
  · next hnil _ => cases hnil
  · exact ⟨_, _, (Except.error.inj houtcome).symm⟩

/-- Of a word, the control character that it begins with comes through if it has no name. -/
theorem controls_wordFailure? (word : Word) :
    (wordFailure? word).toList.flatMap Failure.controls = (rawControl? word).toList := by
  obtain ⟨offset, chars⟩ := word
  cases chars with
  | nil => rfl
  | cons c tail =>
    cases hdigit : c.isDigit with
    | false =>
      have hfailure : wordFailure? ⟨offset, c :: tail⟩ =
          some (missing offset (.literal (.singleton c))) := by
        rw [wordFailure?, wordOutcome_missing hdigit]
      have htext : controls (Item.literal (.singleton c)).toText =
          [c].filter Item.showsControl := by
        rw [Item.toText, Item.controls_literalText Repertoire.escapesControls_unicode,
          Item.rawControls, String.toList_singleton]
      rw [hfailure, Option.toList_some, List.flatMap_singleton, controls_missing, htext,
        rawControl?]
      cases h : Item.showsControl c <;> simp [h, Option.filter]
    | true =>
      have hnone : rawControl? ⟨offset, c :: tail⟩ = none := by
        simp [rawControl?, Item.showsControl, isControl_eq_false_of_isDigit hdigit, Option.filter]
      rw [hnone]
      cases hfailure : wordFailure? ⟨offset, c :: tail⟩ with
      | none => rfl
      | some failure =>
        obtain ⟨position, problem, rfl⟩ := exists_payload_of_isDigit hdigit hfailure
        rw [Option.toList_some, List.flatMap_singleton, controls_payload]
        rfl

/-- The control characters that come through where the failures of a text are described are those
that its words begin with. -/
theorem controls_failures (text : String) :
    (read text).failures.flatMap Failure.controls = (words text).filterMap rawControl? := by
  rw [failures_read]
  split
  · next hnil =>
    rw [hnil, List.flatMap_singleton, controls_missing]
    decide
  · rw [List.filterMap_eq_flatMap_toList, List.filterMap_eq_flatMap_toList, List.flatMap_assoc]
    simp only [controls_wordFailure?]

/-! ### Reports about a source -/

/-- What a problem makes of a report brings no control characters in. -/
theorem Problem.controls_reshape (problem : Problem) (report : Report) (span : Span) :
    (problem.reshape report span).controls = report.controls := by
  cases problem with
  | strayCharacter found => rfl
  | tooLarge digits =>
    have hgreatest : controls greatestText = [] :=
      controls_eq_nil_iff.mpr (isInline_decimal (UInt64.size - 1))
    show (report.annotations ++ [_]).flatMap _ = _
    rw [List.flatMap_append, List.flatMap_singleton, hgreatest, List.append_nil]
    rfl

/-- The report of a failure has the control characters of its description. -/
theorem controls_toDiagnostic {back : List Char} {failure : Failure Problem}
    (h : FailsBefore back failure) (heading : Heading) (span : Span) :
    (failure.toDiagnostic .error heading span).reports.flatMap Report.controls =
      failure.controls := by
  have hpayload (offset : Nat) (problem : Problem) :
      ((Failure.payload offset problem).toDiagnostic .error heading span).reports.flatMap
        Report.controls = (Failure.payload offset problem).controls := by
    rw [controls_payload, toDiagnostic_payload, Diagnostic.reports_concat, List.flatMap_singleton,
      Diagnostic.reports_ofReports, List.flatMap_singleton, Problem.controls_reshape]
    show controls problem.toText ++ [] = []
    rw [controls_eq_nil_iff.mpr problem.isInline_toText, List.append_nil]
  cases h with
  | missing offset item => exact List.append_nil _
  | @stray found rest offset hback hfeed => exact hpayload offset (.strayCharacter found)
  | tooLarge offset digits => exact hpayload offset (.tooLarge digits)

private theorem exists_of_bind_eq_ok {ε α β : Type} {x : Except ε α} {f : α → Except ε β} {b : β}
    (h : x >>= f = .ok b) : ∃ a, x = .ok a ∧ f a = .ok b := by
  cases x with
  | error e => cases h
  | ok a => exact ⟨a, rfl, h⟩

/-- Wherever failures are located, their reports have the control characters of their
descriptions. -/
theorem controls_ofErrors {heading : Heading} {locate : Nat → Except Fault Location}
    {failures : List (Failure Problem)} {diagnostic : Diagnostic}
    (hfails : ∀ failure ∈ failures, ∃ back, FailsBefore back failure)
    (h : Diagnostic.ofErrors heading locate failures = .ok diagnostic) :
    diagnostic.reports.flatMap Report.controls = failures.flatMap Failure.controls := by
  induction failures generalizing diagnostic with
  | nil =>
    cases h
    rfl
  | cons failure failures ih =>
    obtain ⟨⟨back, hback⟩, hothers⟩ := List.forall_mem_cons.mp hfails
    rw [Diagnostic.ofErrors, Diagnostic.ofFailures_cons] at h
    obtain ⟨location, -, h⟩ := exists_of_bind_eq_ok h
    obtain ⟨others, hrest, h⟩ := exists_of_bind_eq_ok h
    obtain rfl := Except.ok.inj h
    rw [Diagnostic.reports_append, List.flatMap_append, ih hothers hrest, List.flatMap_cons]
    congr 1
    exact controls_toDiagnostic hback heading _

/-- The reports of a verdict have the control characters of the failures of its source. -/
theorem controls_reports {source : Source} {headline : String} {verdict : Verdict}
    (h : check source headline = .ok verdict) :
    verdict.reports.flatMap Report.controls =
      (read source.text).failures.flatMap Failure.controls := by
  simp only [check] at h
  split at h
  · next hsucceeded =>
    obtain rfl := Except.ok.inj h
    rw [List.isEmpty_iff.mp hsucceeded]
    rfl
  · obtain ⟨diagnostic, hdiagnostic, h⟩ := exists_of_bind_eq_ok h
    obtain rfl := Except.ok.inj h
    apply controls_ofErrors _ hdiagnostic
    intro failure hfailure
    obtain ⟨_, back, -, -, hfails⟩ := failsBefore_of_mem_failures hfailure
    exact ⟨back, hfails⟩

/-- A literal text is shown without control characters, unless it is a single one without a name.
What is said at the spans of a source has no control characters but those that a word begins with
and that have no name, each once and in their order. So it has none exactly if no word begins with
one of these. -/
theorem controls_shown (text : String) {source : Source} {headline : String} {verdict : Verdict}
    (hcheck : check source headline = .ok verdict) :
    controls (Item.literal text).toText = Item.rawControls text ∧
      verdict.reports.flatMap Report.controls = (words source.text).filterMap rawControl? ∧
      ((∀ report ∈ verdict.reports, ∀ marked ∈ report.annotations,
          IsInline marked.marker.message) ↔
        ∀ word ∈ words source.text, rawControl? word = none) := by
  have hcontrols : verdict.reports.flatMap Report.controls =
      (words source.text).filterMap rawControl? := by
    rw [controls_reports hcheck, controls_failures]
  refine ⟨Item.controls_literalText Repertoire.escapesControls_unicode text, hcontrols, ?_⟩
  rw [← List.filterMap_eq_nil_iff, ← hcontrols]
  simp only [List.flatMap_eq_nil_iff, Report.controls, controls_eq_nil_iff]

/-- Of three words with control characters, only the one that begins with a bell shows one. -/
theorem controls_shown_bell :
    ∃ verdict, check ⟨"a.txt", "\x07x 1\x08 \x00"⟩ "bad numbers" = .ok verdict ∧
      verdict.reports.flatMap Report.controls = ['\x07'] := by
  have hsize : "\x07x 1\x08 \x00".utf8ByteSize < UInt32.size - 1 := by decide
  obtain ⟨verdict, hcheck, -⟩ := exists_verdict ⟨"a.txt", "\x07x 1\x08 \x00"⟩ "bad numbers" hsize
  refine ⟨verdict, hcheck, ?_⟩
  rw [(controls_shown "\x07" hcheck).2.1]
  decide +kernel

/-- A bell is shown as it is, both by itself and in the report about a source. -/
theorem bell_shown_raw :
    (Item.literal "\x07").toText = "'\x07'" ∧ ¬IsInline "'\x07'" ∧
      ∃ report, check ⟨"a.txt", "\x07"⟩ "bad numbers" =
          .ok (.rejected ((Diagnostic.ofReports [report]).addFile "a.txt" "\x07")) ∧
        ∃ marked ∈ report.annotations, marked.marker.message = "unexpected '\x07'" ∧
          ¬IsInline marked.marker.message := by
  refine ⟨by decide, by decide, ⟨.error, some "E1000", "bad numbers",
    [⟨⟨⟨1, 1⟩, ⟨1, 2⟩, "a.txt"⟩, ⟨.primary, "unexpected '\x07'"⟩⟩,
      ⟨⟨⟨1, 1⟩, ⟨1, 2⟩, "a.txt"⟩, ⟨.secondary, "expecting digit"⟩⟩], []⟩, by decide +kernel, ?_⟩
  exact ⟨_, List.mem_cons_self, rfl, by decide⟩

end Numbers

end SourceDiagnostics
