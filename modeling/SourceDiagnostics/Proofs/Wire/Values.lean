import SourceDiagnostics.Proofs.Wire.Formats
import SourceDiagnostics.Wire.Diagnostic

/-!
# The bytes of spans, markers, notes and reports

A value whose texts and lists have sizes that a count can tell has one written form. It is read
from any bytes that begin with that form, and from no others. So different values have different
forms, and none begins another one.
-/

namespace SourceDiagnostics

/-! ### Values whose sizes can be told -/

/-- A count can tell how many bytes the file name has. -/
def Span.Fits (span : Span) : Prop := span.file.utf8ByteSize < UInt64.size

/-- A count can tell how many bytes the message has. -/
def Marker.Fits (marker : Marker) : Prop := marker.message.utf8ByteSize < UInt64.size

/-- A count can tell how many bytes the message has. -/
def Note.Fits (note : Note) : Prop := note.message.utf8ByteSize < UInt64.size

/-- Counts can tell how many bytes the texts of a report have, and how many marked spans and notes
there are. -/
structure Report.Fits (report : Report) : Prop where
  code : ∀ code ∈ report.code, code.utf8ByteSize < UInt64.size
  headline : report.headline.utf8ByteSize < UInt64.size
  annotations_length : report.annotations.length < UInt64.size
  annotations : ∀ marked ∈ report.annotations, marked.span.Fits ∧ marked.marker.Fits
  notes_length : report.notes.length < UInt64.size
  notes : ∀ note ∈ report.notes, note.Fits

namespace Wire

/-- Each value that fits has one written form. -/
structure Format.IsCanonical {α : Type} (format : Format α) (Fits : α → Prop) : Prop where
  /-- A value is read from the bytes that begin with its form, and what is behind that is left. -/
  read_eq_ok_iff : ∀ bytes value rest, format.read bytes = .ok (value, rest) ↔
    Fits value ∧ bytes = format.write value ++ rest
  /-- No form begins the form of another value. -/
  eq_of_prefix : ∀ first second, Fits first → Fits second →
    format.write first <+: format.write second → first = second

open Format

/-- What is written exactly has one written form. -/
theorem Format.IsExact.isCanonical {α : Type} {format : Format α} {Fits : α → Prop}
    (h : format.IsExact Fits) : format.IsCanonical Fits where
  read_eq_ok_iff _ _ _ := h.read_iff
  eq_of_prefix first second hfirst hsecond hprefix := by
    obtain ⟨rest, hrest⟩ := hprefix
    have hread := h.read_write hfirst rest
    have hread' := h.read_write hsecond []
    rw [List.append_nil, ← hrest, hread] at hread'
    cases hread'
    rfl

/-! ### The formats are exact -/

theorem isExact_place : place.IsExact fun _ ↦ True :=
  (isExact_word.pair isExact_word).convert (fun _ _ ↦ ⟨trivial, rfl⟩)
    fun _ _ ↦ ⟨⟨trivial, trivial⟩, rfl⟩

theorem isExact_span : span.IsExact Span.Fits :=
  (isExact_place.pair (isExact_place.pair isExact_text)).convert (fun _ h ↦ ⟨h.2.2, rfl⟩)
    fun _ h ↦ ⟨⟨trivial, trivial, h⟩, rfl⟩

theorem isExact_severity : severity.IsExact fun _ ↦ True :=
  (isExact_variant (by decide) (by decide)).congr fun value ↦ by cases value <;> decide

theorem isExact_role : role.IsExact fun _ ↦ True :=
  (isExact_variant (by decide) (by decide)).congr fun value ↦ by cases value <;> decide

theorem isExact_noteKind : noteKind.IsExact fun _ ↦ True :=
  (isExact_variant (by decide) (by decide)).congr fun value ↦ by cases value <;> decide

theorem isExact_marker : marker.IsExact Marker.Fits :=
  (isExact_role.pair isExact_text).convert (fun _ h ↦ ⟨h.2, rfl⟩) fun _ h ↦ ⟨⟨trivial, h⟩, rfl⟩

theorem isExact_note : note.IsExact Note.Fits :=
  (isExact_noteKind.pair isExact_text).convert (fun _ h ↦ ⟨h.2, rfl⟩) fun _ h ↦ ⟨⟨trivial, h⟩, rfl⟩

theorem isExact_markedSpan :
    markedSpan.IsExact fun marked ↦ marked.span.Fits ∧ marked.marker.Fits :=
  (isExact_span.pair isExact_marker).convert (fun _ h ↦ ⟨h, rfl⟩) fun _ h ↦ ⟨h, rfl⟩

theorem isExact_report : report.IsExact Report.Fits := by
  apply (isExact_severity.pair (isExact_text.option.pair (isExact_text.pair
    (isExact_markedSpan.list.pair isExact_note.list)))).convert
  · rintro _ ⟨-, hcode, hheadline, hannotations, hnotes⟩
    exact ⟨⟨hcode, hheadline, hannotations.1, hannotations.2, hnotes.1, hnotes.2⟩, rfl⟩
  · rintro _ ⟨hcode, hheadline, hlength, hannotations, hlength', hnotes⟩
    exact ⟨⟨trivial, hcode, hheadline, ⟨hlength, hannotations⟩, hlength', hnotes⟩, rfl⟩

/-- Spans, severities, markers, notes and reports have one written form each. It is read back from
in front of any bytes, nothing else is read as the value, and none begins the form of another
one. -/
theorem values_isCanonical :
    span.IsCanonical Span.Fits ∧ severity.IsCanonical (fun _ ↦ True) ∧
      marker.IsCanonical Marker.Fits ∧ note.IsCanonical Note.Fits ∧
      report.IsCanonical Report.Fits :=
  ⟨isExact_span.isCanonical, isExact_severity.isCanonical, isExact_marker.isCanonical,
    isExact_note.isCanonical, isExact_report.isCanonical⟩

/-- A marker is read in front of a byte that is left. -/
theorem values_isCanonical_marker :
    marker.read [1, 0, 0, 0, 2, 0, 0, 0, 0, 0, 0, 0, 0xC3, 0xA9, 7] =
      .ok (⟨.secondary, "é"⟩, [7]) := by
  obtain ⟨-, -, hmarker, -⟩ := values_isCanonical
  have hfits : "é".utf8ByteSize < UInt64.size := by decide
  exact (hmarker.read_eq_ok_iff _ _ _).mpr ⟨hfits, by decide⟩

end Wire

end SourceDiagnostics
