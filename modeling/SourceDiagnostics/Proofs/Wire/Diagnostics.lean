import SourceDiagnostics.Proofs.Files
import SourceDiagnostics.Proofs.Wire.Values

/-!
# The bytes of diagnostics

The files of a diagnostic may be written in any order, so that it has as many written forms as
there are orders, and each is read back as the diagnostic. What is read as a diagnostic may name a
file more than once; the last contents count, and the diagnostic is the same that its own forms are
read as. Bytes that end before a form does are too short, wherever they end.
-/

namespace SourceDiagnostics

/-- Counts can tell how many reports and files there are and how many bytes their texts have. -/
structure Diagnostic.Fits (diagnostic : Diagnostic) : Prop where
  reports_length : diagnostic.reports.length < UInt64.size
  reports : ∀ report ∈ diagnostic.reports, report.Fits
  files_size : diagnostic.files.size < UInt64.size
  files : ∀ name contents, diagnostic.file? name = some contents →
    name.utf8ByteSize < UInt64.size ∧ contents.utf8ByteSize < UInt64.size

namespace Wire

open Format

/-! ### Forms of a diagnostic -/

/-- The bytes are those of a diagnostic, with its files in some order. -/
def IsForm (d : Diagnostic) (bytes : List UInt8) : Prop :=
  ∃ files, files.Perm d.files.toList ∧ bytes = entries.write (d.reports, files)

theorem isForm_write (d : Diagnostic) : IsForm d (diagnostic.write d) :=
  ⟨d.files.toList, .refl _, rfl⟩

/-- Counts can tell how many reports and entries there are and how many bytes their texts have. -/
structure EntriesFit (reports : List Report) (files : List (String × String)) : Prop where
  reports_length : reports.length < UInt64.size
  reports : ∀ report ∈ reports, report.Fits
  files_length : files.length < UInt64.size
  files : ∀ file ∈ files, file.1.utf8ByteSize < UInt64.size ∧ file.2.utf8ByteSize < UInt64.size

theorem isExact_entries : entries.IsExact fun found ↦ EntriesFit found.1 found.2 :=
  (isExact_report.list.pair (isExact_text.pair isExact_text).list).congr fun _ ↦
    ⟨fun h ↦ ⟨h.1.1, h.1.2, h.2.1, h.2.2⟩, fun h ↦ ⟨⟨h.1, h.2⟩, h.3, h.4⟩⟩

/-- The entries of a diagnostic that fits do so in any order. -/
theorem entriesFit_of_perm {d : Diagnostic} {files : List (String × String)} (h : d.Fits)
    (hperm : files.Perm d.files.toList) : EntriesFit d.reports files where
  reports_length := h.reports_length
  reports := h.reports
  files_length := by
    rw [hperm.length_eq, Std.ExtTreeMap.length_toList]
    exact h.files_size
  files file hfile := h.files file.1 file.2
    (Std.ExtTreeMap.mem_toList_iff_getElem?_eq_some.mp (hperm.mem_iff.mp hfile))

/-- A diagnostic fits whose entries do, also if they give a file more than once. -/
theorem fits_of_entriesFit {reports : List Report} {files : List (String × String)}
    (h : EntriesFit reports files) : Diagnostic.Fits ⟨reports, .ofList files⟩ where
  reports_length := h.reports_length
  reports := h.reports
  files_size := Nat.lt_of_le_of_lt Std.ExtTreeMap.size_ofList_le h.files_length
  files name contents hfile := by
    rw [Diagnostic.file?, Files.getElem?_ofList, List.lookup_eq_some_iff] at hfile
    obtain ⟨later, earlier, hentries, -⟩ := hfile
    apply h.files (name, contents)
    rw [← List.mem_reverse, hentries]
    exact List.mem_append_right _ List.mem_cons_self

/-- A diagnostic is read from the bytes of its reports and of entries that its files are put
together from. -/
theorem read_diagnostic_iff {bytes rest : List UInt8} {d : Diagnostic} :
    diagnostic.read bytes = .ok (d, rest) ↔
      ∃ files, EntriesFit d.reports files ∧ bytes = entries.write (d.reports, files) ++ rest ∧
        d.files = .ofList files := by
  rw [diagnostic, read_convert, bind_eq_ok_iff]
  constructor
  · rintro ⟨⟨⟨reports, files⟩, rest⟩, hread, hsame⟩
    cases hsame
    obtain ⟨hfits, rfl⟩ := isExact_entries.read_iff.mp hread
    exact ⟨files, hfits, rfl, rfl⟩
  · rintro ⟨files, hfits, rfl, hfiles⟩
    cases d
    cases hfiles
    exact ⟨_, isExact_entries.read_write hfits rest, rfl⟩

/-- Each form of a diagnostic is read as the diagnostic. -/
theorem read_of_isForm {d : Diagnostic} {bytes : List UInt8} (h : d.Fits) (hform : IsForm d bytes)
    (rest : List UInt8) : diagnostic.read (bytes ++ rest) = .ok (d, rest) := by
  obtain ⟨files, hperm, rfl⟩ := hform
  exact read_diagnostic_iff.mpr
    ⟨files, entriesFit_of_perm h hperm, rfl, (Files.ofList_of_perm hperm).symm⟩

/-- Whatever the order in which its files are written, and whatever follows, a diagnostic is read
back. What is read as a diagnostic are its reports, in order and behind their number, and then
entries behind theirs, of which the last one of a name gives the file; and written in any order,
the diagnostic is read again as it was. -/
theorem read_diagnostic_forms :
    (∀ d, IsForm d (diagnostic.write d)) ∧
    (∀ d bytes rest, d.Fits → IsForm d bytes → diagnostic.read (bytes ++ rest) = .ok (d, rest)) ∧
    ∀ bytes d rest, diagnostic.read bytes = .ok (d, rest) →
      (∃ files : List (String × String), EntriesFit d.reports files ∧
        bytes = count.write d.reports.length ++ d.reports.flatMap report.write ++
          (count.write files.length ++ files.flatMap (pair text text).write) ++ rest ∧
        ∀ name, d.file? name = files.reverse.lookup name) ∧
      ∀ again rest, IsForm d again → diagnostic.read (again ++ rest) = .ok (d, rest) := by
  refine ⟨isForm_write, fun d bytes rest hfits hform ↦ read_of_isForm hfits hform rest, ?_⟩
  intro bytes d rest hread
  obtain ⟨files, hfits, rfl, hfiles⟩ := read_diagnostic_iff.mp hread
  have hd : d = ⟨d.reports, .ofList files⟩ := by
    rw [← hfiles]
  refine ⟨⟨files, hfits, rfl, fun name ↦ ?_⟩, fun again rest hform ↦ ?_⟩
  · rw [Diagnostic.file?, hfiles, Files.getElem?_ofList]
  · apply read_of_isForm _ hform
    rw [hd]
    exact fits_of_entriesFit hfits

/-- A diagnostic is read with its second file written first, and what gives a file twice is read
with the second contents, as is the diagnostic that gives them once. -/
theorem read_diagnostic_forms_two :
    diagnostic.read
        (entries.write ([.headed .error none "x"], [("b", "2"), ("a", "1")]) ++ [7]) =
      .ok (⟨[.headed .error none "x"], .ofList [("a", "1"), ("b", "2")]⟩, [7]) ∧
    diagnostic.read (entries.write ([], [("a", "1"), ("a", "2")])) =
      .ok (⟨[], .ofList [("a", "1"), ("a", "2")]⟩, []) ∧
    diagnostic.read (entries.write ([], [("a", "2")]) ++ [7]) =
      .ok (⟨[], .ofList [("a", "1"), ("a", "2")]⟩, [7]) := by
  obtain ⟨-, hforms, hagain⟩ := read_diagnostic_forms
  have hreport : (Report.headed .error none "x").Fits :=
    ⟨by simp [Report.headed], by decide, by decide, by simp [Report.headed], by decide,
      by simp [Report.headed]⟩
  have hfits : Diagnostic.Fits ⟨[.headed .error none "x"], .ofList [("a", "1"), ("b", "2")]⟩ :=
    fits_of_entriesFit ⟨by decide, by simpa using hreport, by decide, by decide⟩
  have htwice : diagnostic.read (entries.write ([], [("a", "1"), ("a", "2")])) =
      .ok (⟨[], .ofList [("a", "1"), ("a", "2")]⟩, []) := by decide
  exact ⟨hforms _ _ [7] hfits ⟨_, by decide, rfl⟩, htwice,
    (hagain _ _ _ htwice).2 _ [7] ⟨[("a", "2")], by decide, rfl⟩⟩

/-! ### Bytes that are cut off -/

/-- Bytes that end before these do are too short to be read. -/
def Format.NoticesCut {α : Type} (format : Format α) (bytes : List UInt8) : Prop :=
  ∀ front, front <+: bytes → front ≠ bytes → format.read front = .error .tooShort

theorem Format.IsExact.noticesCut {α : Type} {format : Format α} {Fits : α → Prop}
    (h : format.IsExact Fits) {value : α} (hfits : Fits value) :
    format.NoticesCut (format.write value) := by
  rintro front ⟨back, hback⟩ hne
  apply h.read_cut hfits hback.symm
  rintro rfl
  exact hne (by rw [← hback, List.append_nil])

/-- A form of a diagnostic that is cut off is too short. -/
theorem noticesCut_of_isForm {d : Diagnostic} {bytes : List UInt8} (h : d.Fits)
    (hform : IsForm d bytes) : diagnostic.NoticesCut bytes := by
  obtain ⟨files, hperm, rfl⟩ := hform
  intro front hprefix hne
  have hcut := isExact_entries.noticesCut (entriesFit_of_perm h hperm) front hprefix hne
  rw [diagnostic, read_convert, hcut]
  rfl

/-- What is written of a value and ends too early is never taken for a value, nor for anything else
than too short, be it cut in a number, in a text, within a character or between two parts. -/
theorem read_of_cut :
    (∀ s : Span, s.Fits → span.NoticesCut (span.write s)) ∧
    (∀ s : Severity, severity.NoticesCut (severity.write s)) ∧
    (∀ m : Marker, m.Fits → marker.NoticesCut (marker.write m)) ∧
    (∀ n : Note, n.Fits → note.NoticesCut (note.write n)) ∧
    (∀ r : Report, r.Fits → report.NoticesCut (report.write r)) ∧
    ∀ (d : Diagnostic) (bytes : List UInt8), d.Fits → IsForm d bytes →
      diagnostic.NoticesCut bytes :=
  ⟨fun _ h ↦ isExact_span.noticesCut h, fun _ ↦ isExact_severity.noticesCut trivial,
    fun _ h ↦ isExact_marker.noticesCut h, fun _ h ↦ isExact_note.noticesCut h,
    fun _ h ↦ isExact_report.noticesCut h, fun _ _ h hform ↦ noticesCut_of_isForm h hform⟩

/-- A span is cut within the last character of its file name, and a diagnostic before its second
file. -/
theorem read_of_cut_two :
    span.read ((span.write ⟨⟨1, 1⟩, ⟨1, 2⟩, "é"⟩).take 25) = .error .tooShort ∧
      diagnostic.read ((entries.write ([], [("b", "2"), ("a", "1")])).take 34) =
        .error .tooShort := by
  obtain ⟨hspan, -, -, -, -, hdiagnostic⟩ := read_of_cut
  have hfile : "é".utf8ByteSize < UInt64.size := by decide
  have hfits : Diagnostic.Fits ⟨[], .ofList [("a", "1"), ("b", "2")]⟩ :=
    fits_of_entriesFit ⟨by decide, by simp, by decide, by decide⟩
  refine ⟨hspan ⟨⟨1, 1⟩, ⟨1, 2⟩, "é"⟩ hfile _ (List.take_prefix _ _) (by decide), ?_⟩
  exact hdiagnostic _ _ hfits ⟨_, by decide, rfl⟩ _ (List.take_prefix _ _) (by decide)

end Wire

end SourceDiagnostics
