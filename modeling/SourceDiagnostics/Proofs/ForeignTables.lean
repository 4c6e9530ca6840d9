import SourceDiagnostics.Proofs.LineNumbers

/-!
# Tables of other texts

A table may be asked about a text that it was not made of: an earlier state of the text, another
file, or no text at all. What it answers then need not mean anything, but there is always an answer.
This rests on three things that every table keeps to, whatever the text: its starts are in ascending
order, the first of them is zero, and there are no more of them than lines can be numbered.
-/

namespace SourceDiagnostics

open Text

namespace LineTable

/-- What can be told of a table without the text that it was made of. -/
structure IsSound (table : LineTable) : Prop where
  pairwise : table.starts.toList.Pairwise (· < ·)
  head : ∀ start ∈ table.starts[0]?, start = 0
  size_lt : table.size < UInt32.size

theorem isSound_empty : IsSound empty where
  pairwise := .nil
  head := nofun
  size_lt := by decide

/-- Tables of texts are sound as long as each of their lines has a number. -/
theorem isSound_ofText {text : String} (h : text.toList.count '\n' < UInt32.size - 1) :
    IsSound (ofText text) where
  pairwise := pairwise_starts_ofText text
  head start hstart := (Option.some.inj hstart).symm
  size_lt := by
    rw [size_ofText, count_utf8]
    omega

namespace IsSound

variable {table : LineTable}

/-- The line of an offset is the last one to begin at or before it, or the first one where none
does. -/
theorem exists_lineAt (h : IsSound table) (offset : Nat) :
    ∃ line, table.lineAt offset = .ok line ∧ line.toNat = max 1 (table.countUpTo offset) := by
  have hle := countUpTo_le_size h.pairwise offset
  have hlt := h.size_lt
  by_cases hpos : 0 < table.countUpTo offset
  · have hnumber : (UInt32.ofNat (table.countUpTo offset)).toNat = table.countUpTo offset :=
      UInt32.toNat_ofNat_of_lt' (by omega)
    refine ⟨UInt32.ofNat (table.countUpTo offset), ?_, ?_⟩
    · rw [lineAt_eq_ok_iff hpos (by omega), hnumber]
    · rw [hnumber, Nat.max_eq_right hpos]
  · have hzero : table.countUpTo offset = 0 := Nat.eq_zero_of_not_pos hpos
    refine ⟨1, ?_, ?_⟩
    · rw [lineAt, hzero]
      rfl
    · rw [hzero]
      rfl

/-- The line of an offset does not begin behind it. A line that the table does not have counts as
beginning at zero. -/
theorem start_le (h : IsSound table) {line : UInt32} {offset : Nat}
    (hline : line.toNat = max 1 (table.countUpTo offset)) :
    (table.start? line).getD 0 ≤ offset := by
  cases hstart : table.start? line with
  | none => exact Nat.zero_le offset
  | some start =>
    rw [Option.getD_some]
    by_cases hpos : 0 < table.countUpTo offset
    · rw [← le_countUpTo_iff h.pairwise hstart, hline, Nat.max_eq_right hpos]
    · -- No line begins up to the offset, so it is put on the first one, which begins at zero.
      obtain ⟨-, hfirst⟩ := start?_eq_some_iff.mp hstart
      have hone : line.toNat - 1 = 0 := by omega
      rw [hone] at hfirst
      rw [h.head start hfirst]
      exact Nat.zero_le offset

/-- The line of an offset is one of the table's, or the first one where the table has none. -/
theorem line_le (h : IsSound table) {line : UInt32} {offset : Nat}
    (hline : line.toNat = max 1 (table.countUpTo offset)) : line.toNat ≤ max 1 table.size := by
  have hle := countUpTo_le_size h.pairwise offset
  omega

end IsSound

/-- A table without lines, or one of a text that has a number for each of its lines, gives every
offset of every text a place. The line is one of the table's, or else the first one, and begins no
later than the offset or the end of the text, so the bytes in between are within the text. The place
is told by the starts in the table and by the characters that begin in the text from there on. -/
theorem placeIn_foreign {table : LineTable}
    (h : table = empty ∨
      ∃ other : String, other.toList.count '\n' < UInt32.size - 1 ∧ table = ofText other)
    (text : String) (offset : Nat) :
    ∃ line start column,
      table.lineAt (min offset text.utf8ByteSize) = .ok line ∧
      1 ≤ line.toNat ∧ line.toNat ≤ max 1 table.size ∧
      line.toNat = max 1 (table.starts.toList.countP (· ≤ min offset text.utf8ByteSize)) ∧
      (table.start? line).getD 0 = start ∧
      start ≤ min offset text.utf8ByteSize ∧ min offset text.utf8ByteSize ≤ text.utf8ByteSize ∧
      table.placeIn text offset = .ok ⟨line, column⟩ ∧
      1 ≤ column.toNat ∧
      column.toNat =
        min (1 + countBeginnings text.toList start (min offset text.utf8ByteSize))
          (UInt32.size - 1) := by
  have hsound : IsSound table := by
    rcases h with rfl | ⟨other, hother, rfl⟩
    · exact isSound_empty
    · exact isSound_ofText hother
  obtain ⟨line, hlineAt, hline⟩ := hsound.exists_lineAt (min offset text.utf8ByteSize)
  have hstart := hsound.start_le hline
  obtain ⟨column, hplace, hcolumn⟩ := placeIn_of_start_le hlineAt hstart
  refine ⟨line, _, column, hlineAt, ?_, hsound.line_le hline, ?_, rfl, hstart,
    Nat.min_le_right _ _, hplace, ?_, hcolumn⟩
  · rw [hline]
    exact Nat.le_max_left _ _
  · rw [countP_starts hsound.pairwise, hline]
  · rw [hcolumn]
    exact Nat.le_min.mpr ⟨Nat.le_add_right _ _, by decide⟩

/-- A table of three lines puts an offset inside the only character of a text on its second line,
and one of no lines puts it on the first line. -/
theorem placeIn_foreign_two :
    "\n\n".toList.count '\n' < UInt32.size - 1 ∧
      (∃ line column, (ofText "\n\n").placeIn "é" 1 = .ok ⟨line, column⟩ ∧ line.toNat = 2) ∧
      ∃ line column, empty.placeIn "é" 1 = .ok ⟨line, column⟩ ∧ line.toNat = 1 := by
  have hsize : "\n\n".toList.count '\n' < UInt32.size - 1 := by decide
  obtain ⟨line, -, column, -, -, -, hline, -, -, -, hplace, -⟩ :=
    placeIn_foreign (.inr ⟨"\n\n", hsize, rfl⟩) "é" 1
  obtain ⟨line', -, column', -, -, -, hline', -, -, -, hplace', -⟩ :=
    placeIn_foreign (.inl rfl) "é" 1
  refine ⟨hsize, ⟨line, column, hplace, ?_⟩, line', column', hplace', ?_⟩
  · rw [hline]
    decide
  · rw [hline']
    decide

end LineTable

end SourceDiagnostics
