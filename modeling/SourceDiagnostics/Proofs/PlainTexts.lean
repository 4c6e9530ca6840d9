import SourceDiagnostics.Diagnostic.Plain
import SourceDiagnostics.Proofs.SpanTexts

/-!
# Plain text cut back into reports

In a diagnostic shown as plain text the reports stand apart by empty lines, and each report is shown
in lines of its own. Nothing is escaped there, so a message with line feeds in it can look like the
end of a report. Where no text of the reports has a line feed, nothing else looks like one: no line
of a report is empty, whichever of its texts are, as each line begins with signs that are always
there.
-/

namespace SourceDiagnostics

open Text

/-- No text of the report holds a line feed. -/
structure Report.IsUnbroken (report : Report) : Prop where
  code : ∀ code ∈ report.code, '\n' ∉ code.toList
  headline : '\n' ∉ report.headline.toList
  annotations : ∀ marked ∈ report.annotations,
    '\n' ∉ marked.marker.message.toList ∧ '\n' ∉ marked.span.file.toList
  notes : ∀ note ∈ report.notes, '\n' ∉ note.message.toList

/-! ### The lines of a report -/

/-- The text begins with a sign that stays when a carriage return is taken from its end. -/
private def OpensPlainly (text : String) : Prop := ∃ c ∈ text.toList.head?, c ≠ '\r'

private theorem OpensPlainly.append {front : String} (h : OpensPlainly front) (back : String) :
    OpensPlainly (front ++ back) := by
  obtain ⟨c, hc, hreturn⟩ := h
  refine ⟨c, ?_, hreturn⟩
  rw [String.toList_append, List.head?_append, Option.mem_def.mp hc]
  rfl

private theorem OpensPlainly.ne_empty {text : String} (h : OpensPlainly text) : text ≠ "" := by
  rintro rfl
  obtain ⟨c, hc, -⟩ := h
  cases hc

private theorem OpensPlainly.showsLine_ne_empty {shown text : String} (h : OpensPlainly text)
    (hshown : ShowsLine shown text) : shown ≠ "" := by
  rcases hshown with rfl | rfl
  · exact h.ne_empty
  · rintro rfl
    obtain ⟨c, hc, hreturn⟩ := h
    exact hreturn (Option.some.inj hc).symm

/-- A line that stays one: it has no line feed, and it is not empty however it is shown. -/
private structure StaysLine (text : String) : Prop where
  opens : OpensPlainly text
  unbroken : '\n' ∉ text.toList

private theorem StaysLine.isLine {text : String} (h : StaysLine text) : IsLine text :=
  ⟨h.opens.ne_empty, h.unbroken⟩

private theorem opensPlainly_blanks : OpensPlainly "  " := ⟨' ', rfl, by decide⟩

private theorem opensPlainly_name (severity : Severity) : OpensPlainly severity.name := by
  cases severity with
  | error => exact ⟨'e', rfl, by decide⟩
  | warning => exact ⟨'w', rfl, by decide⟩

namespace Report.IsUnbroken

variable {report : Report}

private theorem staysLine_headText (h : report.IsUnbroken) : StaysLine report.headText := by
  have hname : '\n' ∉ report.severity.name.toList := by
    cases report.severity <;> decide
  rw [Report.headText]
  split
  · next code hcode =>
    refine ⟨((((opensPlainly_name _).append _).append _).append _).append _, ?_⟩
    simp [hname, h.code code hcode, h.headline]
  · refine ⟨((opensPlainly_name _).append _).append _, ?_⟩
    simp [hname, h.headline]

private theorem staysLine_annotation (h : report.IsUnbroken) {marked : MarkedSpan}
    (hmarked : marked ∈ report.annotations) : StaysLine marked.toText := by
  obtain ⟨hmessage, hfile⟩ := h.annotations marked hmarked
  have harrow : '\n' ∉ marked.marker.role.arrow.toList := by
    cases marked.marker.role <;> decide
  have hplace (place : Place) : '\n' ∉ place.toText.toList :=
    Place.not_mem_toText place rfl (by decide)
  have hspan : '\n' ∉ marked.span.toText.toList := by
    simp [Span.toList_toText, hfile, hplace]
  refine ⟨((((opensPlainly_blanks.append _).append _).append _).append _).append _, ?_⟩
  simp [MarkedSpan.toText, harrow, hspan, hmessage]

private theorem staysLine_note (h : report.IsUnbroken) {note : Note}
    (hnote : note ∈ report.notes) : StaysLine ("  = " ++ note.toText) := by
  have hkind : '\n' ∉ note.kind.name.toList := by
    cases note.kind <;> decide
  have hmessage := h.notes note hnote
  refine ⟨opensPlainly_blanks.append ("= " ++ note.toText), ?_⟩
  simp [Note.toText, hkind, hmessage]

private theorem staysLine_of_mem_textLines (h : report.IsUnbroken) :
    ∀ line ∈ report.textLines, StaysLine line := by
  intro line hline
  rw [Report.textLines, List.cons_append, List.mem_cons, List.mem_append, List.mem_map,
    List.mem_map] at hline
  obtain rfl | ⟨marked, hmarked, rfl⟩ | ⟨note, hnote, rfl⟩ := hline
  · exact h.staysLine_headText
  · exact h.staysLine_annotation hmarked
  · exact h.staysLine_note hnote

/-- Each line of a report has signs in it, and none of them is a line feed. -/
theorem isLine_of_mem_textLines (h : report.IsUnbroken) :
    ∀ line ∈ report.textLines, IsLine line :=
  fun line hline ↦ (h.staysLine_of_mem_textLines line hline).isLine

/-- Cut at its line feeds, the text of a report gives the lines that it is made of. -/
theorem cutAtLineFeeds_toText (h : report.IsUnbroken) :
    cutAtLineFeeds report.toText = report.textLines :=
  cutAtLineFeeds_intercalate (List.cons_ne_nil _ _) fun line hline ↦
    (h.isLine_of_mem_textLines line hline).unbroken

theorem forall₂_showsLine_toText (h : report.IsUnbroken) :
    List.Forall₂ ShowsLine (lines report.toText) report.textLines :=
  forall₂_showsLine_lines h.isLine_of_mem_textLines

/-- No line of a report is shown as an empty one, even if a carriage return is taken from it. -/
theorem empty_not_mem_lines_toText (h : report.IsUnbroken) : "" ∉ lines report.toText := by
  have hopens : List.Forall₂ (fun line shown ↦ OpensPlainly line ∧ ShowsLine shown line)
      report.textLines (lines report.toText) :=
    (List.forall₂_and_left _ _).mpr
      ⟨fun line hline ↦ (h.staysLine_of_mem_textLines line hline).opens,
        h.forall₂_showsLine_toText.flip⟩
  have hshown : List.Forall₂ (fun shown line ↦ shown ≠ "" ∧ ShowsLine shown line)
      (lines report.toText) report.textLines :=
    hopens.flip.imp fun _ _ ⟨hopen, hshows⟩ ↦ ⟨hopen.showsLine_ne_empty hshows, hshows⟩
  exact fun hmem ↦ ((List.forall₂_and_left _ _).mp hshown).1 "" hmem rfl

end Report.IsUnbroken

/-! ### The reports of a diagnostic -/

namespace Diagnostic

/-- Where no text of its reports has a line feed, a diagnostic that is shown comes apart at the
empty lines into its reports, and each of these comes apart at the line feeds into the line that
opens it, one line for each annotation and one for each note, in their order. None of the lines is
empty, and a reader that takes a carriage return for a part of the line break has as many. -/
theorem toText_cutsBack {diagnostic : Diagnostic} (hne : diagnostic.reports ≠ [])
    (h : ∀ report ∈ diagnostic.reports, report.IsUnbroken) :
    paragraphs diagnostic.toText = diagnostic.reports.map Report.toText ∧
      ∀ report ∈ diagnostic.reports,
        cutAtLineFeeds report.toText =
          report.headText :: report.annotations.map MarkedSpan.toText ++
            report.notes.map ("  = " ++ ·.toText) ∧
        List.Forall₂ ShowsLine (lines report.toText) (cutAtLineFeeds report.toText) ∧
        (lines report.toText).length = 1 + report.annotations.length + report.notes.length ∧
        "" ∉ cutAtLineFeeds report.toText ∧ "" ∉ lines report.toText := by
  constructor
  · apply paragraphs_intercalate (by simpa using hne)
    intro text htext
    obtain ⟨report, hreport, rfl⟩ := List.mem_map.mp htext
    exact hasNoGap_intercalate (List.cons_ne_nil _ _) (h report hreport).isLine_of_mem_textLines
  · intro report hreport
    have hunbroken := h report hreport
    have hshows := hunbroken.forall₂_showsLine_toText
    rw [hunbroken.cutAtLineFeeds_toText]
    refine ⟨rfl, hshows, ?_, ?_, hunbroken.empty_not_mem_lines_toText⟩
    · rw [hshows.length_eq, Report.textLines]
      simp only [List.length_append, List.length_cons, List.length_map]
      omega
    · exact fun hmem ↦ (hunbroken.isLine_of_mem_textLines "" hmem).nonempty rfl

/-- Two reports whose texts are empty wherever they can be. -/
theorem toText_cutsBack_empty_texts :
    let bare : Report := ⟨.warning, some "", "", [⟨.nowhere, ⟨.secondary, ""⟩⟩], [⟨.note, "\r"⟩]⟩
    let diagnostic := Diagnostic.ofReports [bare, bare]
    diagnostic.reports ≠ [] ∧ (∀ report ∈ diagnostic.reports, report.IsUnbroken) ∧
      paragraphs diagnostic.toText = [bare.toText, bare.toText] := by
  intro bare diagnostic
  have hne : diagnostic.reports ≠ [] := List.cons_ne_nil _ _
  have hunbroken : ∀ report ∈ diagnostic.reports, report.IsUnbroken := by
    intro report hreport
    obtain rfl : report = bare := by simpa [diagnostic] using hreport
    exact ⟨by decide, by decide, by decide, by decide⟩
  exact ⟨hne, hunbroken, (toText_cutsBack hne hunbroken).1⟩

end Diagnostic

end SourceDiagnostics
