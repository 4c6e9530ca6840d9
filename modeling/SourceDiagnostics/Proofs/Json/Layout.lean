import SourceDiagnostics.Proofs.DescriptionLines
import SourceDiagnostics.Proofs.Json.Documents

/-!
# The layout of JSON text

Whatever the messages, names and numbers of reports are, each of them stays within its line:
control characters are escaped, so the only ones to come through are the line feeds of the layout
itself. How many of these there are is told by the calls, and by how many reports, annotations and
notes they hand over.
-/

namespace SourceDiagnostics

namespace Text

/-! ### Texts within one line -/

/-- Whether a text has no control characters, so that it stays within its line. -/
def IsInline (text : String) : Prop := ∀ c ∈ text.toList, isControl c = false

/-- Whether a text has no control characters other than line feeds. -/
def IsPlain (text : String) : Prop := ∀ c ∈ text.toList, isControl c = true → c = '\n'

-- The instances are those of lists: one that goes through all characters is of no use here.
instance (text : String) : Decidable (IsInline text) :=
  List.decidableBAll (fun c ↦ isControl c = false) text.toList

instance (text : String) : Decidable (IsPlain text) :=
  List.decidableBAll (fun c ↦ isControl c = true → c = '\n') text.toList

theorem isInline_append {front back : String} :
    IsInline (front ++ back) ↔ IsInline front ∧ IsInline back := by
  simp only [IsInline, String.toList_append, List.forall_mem_append]

theorem isPlain_append {front back : String} :
    IsPlain (front ++ back) ↔ IsPlain front ∧ IsPlain back := by
  simp only [IsPlain, String.toList_append, List.forall_mem_append]

theorem IsInline.isPlain {text : String} (h : IsInline text) : IsPlain text := by
  intro c hc hcontrol
  rw [h c hc] at hcontrol
  cases hcontrol

theorem IsInline.lineFeeds {text : String} (h : IsInline text) : lineFeeds text = 0 := by
  rw [lineFeeds_eq_zero_iff]
  intro hfeed
  have := h '\n' hfeed
  revert this
  decide

/-- No digit is a control character. -/
theorem isControl_eq_false_of_isDigit {c : Char} (h : c.isDigit = true) : isControl c = false := by
  have hzero : '0'.toNat = 0x30 := rfl
  have hnine : '9'.toNat = 0x39 := rfl
  rw [Char.isDigit_iff_toNat] at h
  rw [← Bool.not_eq_true, isControl_iff]
  omega

/-- A number in decimal stays within its line. -/
theorem isInline_decimal (n : Nat) : IsInline (toString n) := by
  intro c hc
  rw [Nat.toString_eq_repr, Nat.toList_repr] at hc
  exact isControl_eq_false_of_isDigit (Nat.isDigit_of_mem_toDigits (by decide) (by decide) hc)

/-- A line or column number stays within its line. -/
theorem isInline_number (n : UInt32) : IsInline (toString n) := isInline_decimal n.toNat

end Text

open Text

/-- The line feeds in the text of a report. -/
def Report.lineFeeds (report : Report) : Nat :=
  8 + 7 * report.annotations.length + report.notes.length

/-- Two reports have the same extent if they have as many annotations and as many notes. -/
structure Report.SameExtent (first second : Report) : Prop where
  annotations : first.annotations.length = second.annotations.length
  notes : first.notes.length = second.notes.length

theorem Report.SameExtent.lineFeeds_eq {first second : Report} (h : first.SameExtent second) :
    first.lineFeeds = second.lineFeeds := by
  rw [Report.lineFeeds, h.annotations, h.notes, Report.lineFeeds]

namespace Json

/-- The line feeds that a call writes around a bracket. -/
def Call.lineFeeds : Call → Nat
  | .start => 1
  | .finish => 2
  | _ => 0

/-- The commas in front of so many reports, one for each but for the first ever written. -/
def Writer.commas (writer : Writer) (count : Nat) : Nat :=
  if writer.hasWritten then count else count - 1

/-- Two calls have the same shape if they ask for the same and hand over as many reports, each of
the extent of its counterpart. -/
inductive Call.SameShape : Call → Call → Prop
  | start : SameShape .start .start
  | finish : SameShape .finish .finish
  | report {first second : Report} (h : first.SameExtent second) :
    SameShape (.report first) (.report second)
  | reports {first second : List Report} (h : List.Forall₂ Report.SameExtent first second) :
    SameShape (.reports first) (.reports second)
  | diagnostic {first second : Diagnostic}
      (h : List.Forall₂ Report.SameExtent first.reports second.reports) :
    SameShape (.diagnostic first) (.diagnostic second)
  | flush : SameShape .flush .flush

namespace Call.SameShape

theorem lineFeeds_eq {call counterpart : Call} (h : call.SameShape counterpart) :
    call.lineFeeds = counterpart.lineFeeds := by
  cases h <;> rfl

theorem emitted {call counterpart : Call} (h : call.SameShape counterpart) :
    List.Forall₂ Report.SameExtent call.emitted counterpart.emitted := by
  cases h with
  | start | finish | flush => exact .nil
  | report h => exact .cons h .nil
  | reports h => exact h
  | diagnostic h => exact h

end Call.SameShape

/-! ### Strings, places and notes -/

private theorem any_isControl_leftpad :
    ∀ n < 0xA0, ((Nat.toDigits 16 n).leftpad 4 '0').any isControl = false := by
  decide +kernel

/-- No control character comes out of writing a character. -/
theorem any_isControl_escapeChar (c : Char) : (escapeChar c).any isControl = false := by
  fun_cases escapeChar c with
  | case1 | case2 | case3 | case4 | case5 => decide
  | case6 _ _ _ _ _ hcontrol =>
    have hc : c.toNat < 0xA0 := by
      rw [isControl_iff] at hcontrol
      omega
    rw [escapeCodePoint, List.any_cons, List.any_cons, any_isControl_leftpad c.toNat hc]
    decide
  | case7 _ _ _ _ _ hcontrol =>
    rw [List.any_cons, List.any_nil, Bool.or_false]
    exact Bool.eq_false_iff.mpr hcontrol

/-- A string stays within its line, whatever the text. -/
theorem isInline_quote (text : String) : IsInline (quote text) := by
  have hescape : IsInline (escape text) := by
    intro c hc
    rw [toList_escape] at hc
    obtain ⟨d, -, hd⟩ := List.mem_flatMap.mp hc
    exact Bool.eq_false_iff.mpr (List.any_eq_false.mp (any_isControl_escapeChar d) c hd)
  rw [quote, isInline_append, isInline_append]
  exact ⟨⟨by decide, hescape⟩, by decide⟩

theorem isInline_ofCode (code : Option String) : IsInline (ofCode code) := by
  cases code with
  | none => decide
  | some code => exact isInline_quote code

theorem isInline_ofPlace (place : Place) : IsInline (ofPlace place) := by
  unfold ofPlace
  simp only [isInline_append, isInline_number, and_true]
  decide +kernel

private theorem isInline_kind (kind : NoteKind) : IsInline kind.name := by
  cases kind <;> decide

private theorem isInline_role (role : Role) : IsInline role.name := by
  cases role <;> decide

private theorem isInline_severity (severity : Severity) : IsInline severity.name := by
  cases severity <;> decide

theorem isInline_ofNote (note : Note) : IsInline (ofNote note) := by
  unfold ofNote
  simp only [isInline_append, isInline_kind, isInline_quote, and_true]
  decide +kernel

/-! ### Reports -/

/-- A marked span takes up seven lines. -/
theorem lineFeeds_ofMarkedSpan (marked : MarkedSpan) : lineFeeds (ofMarkedSpan marked) = 6 := by
  unfold ofMarkedSpan
  simp only [lineFeeds_append, (isInline_role _).lineFeeds,
    (isInline_quote _).lineFeeds, (isInline_ofPlace _).lineFeeds]
  rfl

theorem isPlain_ofMarkedSpan (marked : MarkedSpan) : IsPlain (ofMarkedSpan marked) := by
  unfold ofMarkedSpan
  simp only [isPlain_append, (isInline_role _).isPlain, (isInline_quote _).isPlain,
    (isInline_ofPlace _).isPlain, and_true]
  decide +kernel

/-- The elements of an array take up the lines of each of them. -/
theorem lineFeeds_elements (texts : List String) :
    lineFeeds (elements texts) = shownLines texts := by
  fun_induction elements texts with
  | case1 => rfl
  | case2 last =>
    rw [lineFeeds_append]
    rfl
  | case3 element others _ ih =>
    rw [lineFeeds_append, lineFeeds_append, ih]
    rfl

theorem isPlain_elements {texts : List String} (h : ∀ text ∈ texts, IsPlain text) :
    IsPlain (elements texts) := by
  fun_induction elements texts with
  | case1 => decide
  | case2 last =>
    rw [isPlain_append]
    exact ⟨h last List.mem_cons_self, by decide⟩
  | case3 element others _ ih =>
    rw [isPlain_append, isPlain_append]
    refine ⟨⟨h element List.mem_cons_self, by decide⟩, ih ?_⟩
    exact fun text htext ↦ h text (List.mem_cons_of_mem element htext)

private theorem shownLines_map {α : Type} {text : α → String} {n : Nat}
    (h : ∀ item, lineFeeds (text item) = n) (items : List α) :
    shownLines (items.map text) = items.length * (n + 1) := by
  rw [shownLines, List.map_map]
  simp only [Function.comp_def, h, List.map_const', List.sum_replicate_nat]

/-- The lines of a report are told by the numbers of its annotations and notes. -/
theorem lineFeeds_ofReport (report : Report) :
    lineFeeds (ofReport report) = report.lineFeeds := by
  have hannotations := shownLines_map lineFeeds_ofMarkedSpan report.annotations
  have hnotes := shownLines_map (fun note ↦ (isInline_ofNote note).lineFeeds) report.notes
  unfold ofReport
  simp only [lineFeeds_append, (isInline_severity _).lineFeeds,
    (isInline_quote _).lineFeeds, (isInline_ofCode _).lineFeeds, lineFeeds_elements, hannotations,
    hnotes]
  -- What is left are the line feeds of the layout, before, between and behind the two arrays.
  calc
    _ = 5 + report.annotations.length * 7 + 1 + 1 + report.notes.length * 1 + 1 + 0 := rfl
    _ = 8 + 7 * report.annotations.length + report.notes.length := by omega

theorem isPlain_ofReport (report : Report) : IsPlain (ofReport report) := by
  have hannotations : IsPlain (elements (report.annotations.map ofMarkedSpan)) :=
    isPlain_elements (List.forall_mem_map.mpr fun marked _ ↦ isPlain_ofMarkedSpan marked)
  have hnotes : IsPlain (elements (report.notes.map ofNote)) :=
    isPlain_elements (List.forall_mem_map.mpr fun note _ ↦ (isInline_ofNote note).isPlain)
  unfold ofReport
  simp only [isPlain_append, (isInline_severity _).isPlain, (isInline_quote _).isPlain,
    (isInline_ofCode _).isPlain, hannotations, hnotes, and_true]
  decide +kernel

/-! ### Calls -/

namespace Writer

private theorem isPlain_write (writer : Writer) (report : Report) :
    IsPlain (writer.write report).2 := by
  rw [write, isPlain_append]
  refine ⟨?_, isPlain_ofReport report⟩
  split <;> decide

theorem isPlain_writeAll (writer : Writer) (reports : List Report) :
    IsPlain (writer.writeAll reports).2 := by
  induction reports generalizing writer with
  | nil => exact List.forall_mem_nil _
  | cons report reports ih =>
    simp only [writeAll]
    rw [isPlain_append]
    exact ⟨isPlain_write writer report, ih _⟩

theorem isPlain_step (writer : Writer) (call : Call) : IsPlain (writer.step call).2 := by
  cases call with
  | start =>
    show IsPlain "[\n"
    decide
  | finish =>
    show IsPlain "\n]\n"
    decide
  | report report => exact isPlain_write writer report
  | reports reports => exact isPlain_writeAll writer reports
  | diagnostic diagnostic => exact isPlain_writeAll writer diagnostic.reports
  | flush => exact List.forall_mem_nil _

theorem isPlain_run (writer : Writer) (calls : List Call) : IsPlain (writer.run calls).2 := by
  induction calls generalizing writer with
  | nil => exact List.forall_mem_nil _
  | cons call calls ih =>
    simp only [run]
    rw [isPlain_append]
    exact ⟨isPlain_step writer call, ih _⟩

private theorem commas_zero (writer : Writer) : writer.commas 0 = 0 := by
  rw [commas]
  split <;> rfl

/-- The commas in front of reports and in front of more that come after them. -/
private theorem commas_add {writer after : Writer} {reports : List Report}
    (h : after.hasWritten = (writer.hasWritten || !reports.isEmpty)) (count : Nat) :
    writer.commas (reports.length + count) =
      writer.commas reports.length + after.commas count := by
  cases hwritten : writer.hasWritten <;> cases reports <;>
    simp [commas, h, hwritten, Nat.add_right_comm]

private theorem lineFeeds_write (writer : Writer) (report : Report) :
    lineFeeds (writer.write report).2 = writer.commas 1 + report.lineFeeds := by
  have hcomma : lineFeeds (if writer.hasWritten then ",\n" else "") = writer.commas 1 := by
    rw [commas]
    split <;> rfl
  rw [write, lineFeeds_append, hcomma, lineFeeds_ofReport]

/-- Reports take up their lines, and one more for each comma. -/
theorem lineFeeds_writeAll (writer : Writer) (reports : List Report) :
    lineFeeds (writer.writeAll reports).2 =
      (reports.map Report.lineFeeds).sum + writer.commas reports.length := by
  induction reports generalizing writer with
  | nil =>
    rw [List.length_nil, commas_zero]
    rfl
  | cons report reports ih =>
    have hwritten : (writer.write report).1.hasWritten =
        (writer.hasWritten || !List.isEmpty [report]) := (Bool.or_true _).symm
    have hcommas : writer.commas (1 + reports.length) =
        writer.commas 1 + (writer.write report).1.commas reports.length :=
      commas_add hwritten reports.length
    simp only [writeAll]
    rw [lineFeeds_append, lineFeeds_write, ih, List.map_cons, List.sum_cons, List.length_cons,
      Nat.add_comm reports.length 1, hcommas]
    omega

theorem lineFeeds_step (writer : Writer) (call : Call) :
    lineFeeds (writer.step call).2 =
      call.lineFeeds + (call.emitted.map Report.lineFeeds).sum +
        writer.commas call.emitted.length := by
  cases call with
  | start =>
    show lineFeeds "[\n" = 1 + 0 + writer.commas 0
    rw [commas_zero]
    decide
  | finish =>
    show lineFeeds "\n]\n" = 2 + 0 + writer.commas 0
    rw [commas_zero]
    decide
  | report report =>
    show lineFeeds (writer.write report).2 = 0 + (report.lineFeeds + 0) + writer.commas 1
    rw [lineFeeds_write]
    omega
  | reports reports =>
    show lineFeeds (writer.writeAll reports).2 = 0 + (reports.map Report.lineFeeds).sum +
      writer.commas reports.length
    rw [lineFeeds_writeAll, Nat.zero_add]
  | diagnostic diagnostic =>
    show lineFeeds (writer.writeAll diagnostic.reports).2 =
      0 + (diagnostic.reports.map Report.lineFeeds).sum + writer.commas diagnostic.reports.length
    rw [lineFeeds_writeAll, Nat.zero_add]
  | flush =>
    show 0 = 0 + 0 + writer.commas 0
    rw [commas_zero]

theorem hasWritten_step (writer : Writer) (call : Call) :
    (writer.step call).1.hasWritten = (writer.hasWritten || !call.emitted.isEmpty) := by
  cases call with
  | start | finish | flush => exact (Bool.or_false _).symm
  | report report => exact (Bool.or_true _).symm
  | reports reports => exact hasWritten_writeAll writer reports
  | diagnostic diagnostic => exact hasWritten_writeAll writer diagnostic.reports

/-- The line feeds of a run are those around brackets, those in reports and those behind commas. -/
theorem lineFeeds_run (writer : Writer) (calls : List Call) :
    lineFeeds (writer.run calls).2 =
      (calls.map Call.lineFeeds).sum + ((calls.flatMap Call.emitted).map Report.lineFeeds).sum +
        writer.commas (calls.flatMap Call.emitted).length := by
  induction calls generalizing writer with
  | nil =>
    rw [List.flatMap_nil, List.length_nil, commas_zero]
    rfl
  | cons call calls ih =>
    have hcommas := commas_add (hasWritten_step writer call) (calls.flatMap Call.emitted).length
    simp only [run]
    rw [lineFeeds_append, lineFeeds_step, ih, List.map_cons, List.sum_cons, List.flatMap_cons,
      List.map_append, List.sum_append, List.length_append, hcommas]
    omega

end Writer

private theorem map_eq_of_forall₂ {α β : Type} {R : α → α → Prop} {f : α → β}
    {items others : List α} (h : List.Forall₂ R items others) (heq : ∀ a b, R a b → f a = f b) :
    items.map f = others.map f := by
  induction h with
  | nil => rfl
  | cons hitem _ ih => rw [List.map_cons, List.map_cons, heq _ _ hitem, ih]

/-- Whatever a writer has written before and is asked to do, no control character comes out of it
but the line feed. The number of line feeds is told by the brackets, by the annotations and notes of
the reports and by the commas, so it depends on the shape of the calls alone. -/
theorem run_layout (writer : Writer) (calls : List Call) :
    (∀ c ∈ (writer.run calls).2.toList,
      c.toNat ≤ 0x1F ∨ 0x7F ≤ c.toNat ∧ c.toNat ≤ 0x9F → c = '\n') ∧
    (writer.run calls).2.toList.count '\n' =
      (calls.map Call.lineFeeds).sum + ((calls.flatMap Call.emitted).map Report.lineFeeds).sum +
        writer.commas (calls.flatMap Call.emitted).length ∧
    ∀ others : List Call, List.Forall₂ Call.SameShape calls others →
      (writer.run calls).2.toList.count '\n' = (writer.run others).2.toList.count '\n' := by
  refine ⟨?_, Writer.lineFeeds_run writer calls, ?_⟩
  · intro c hc hcontrol
    exact Writer.isPlain_run writer calls c hc (isControl_iff.mpr hcontrol)
  · intro others h
    have hbrackets : calls.map Call.lineFeeds = others.map Call.lineFeeds :=
      map_eq_of_forall₂ h fun _ _ ↦ Call.SameShape.lineFeeds_eq
    have hemitted : List.Forall₂ Report.SameExtent (calls.flatMap Call.emitted)
        (others.flatMap Call.emitted) := List.rel_flatMap h fun _ _ ↦ Call.SameShape.emitted
    have hreports := map_eq_of_forall₂ hemitted fun _ _ ↦ Report.SameExtent.lineFeeds_eq
    have hcount := Writer.lineFeeds_run writer calls
    rw [hbrackets, hreports, hemitted.length_eq, ← Writer.lineFeeds_run writer others] at hcount
    exact hcount

/-- A report with control characters in each of its texts takes up as many lines as one without any
text. -/
theorem run_layout_two :
    ∃ calls others : List Call, calls ≠ others ∧ List.Forall₂ Call.SameShape calls others ∧
      (({} : Writer).run calls).2.toList.count '\n' =
        (({} : Writer).run others).2.toList.count '\n' := by
  have h : List.Forall₂ Call.SameShape
      [.finish, .report ⟨.error, some "E\n1", "\u0085\n", [⟨⟨⟨1, 1⟩, ⟨2, 1⟩, "\n.txt"⟩,
        ⟨.primary, "\r\n"⟩⟩], [⟨.hint, "\n\n"⟩]⟩, .flush]
      [.finish, .report ⟨.warning, none, "", [⟨.nowhere, ⟨.suggestion, ""⟩⟩], [⟨.note, ""⟩]⟩,
        .flush] :=
    .cons .finish (.cons (.report ⟨rfl, rfl⟩) (.cons .flush .nil))
  exact ⟨_, _, by decide, h, (run_layout {} _).2.2 _ h⟩

end Json

end SourceDiagnostics
