import SourceDiagnostics.Proofs.Lines
import SourceDiagnostics.Proofs.Offsets

/-!
# Lines and columns beyond the greatest number

Lines and columns are counted without bound and then put into 32 bits. A column beyond the greatest
number becomes the greatest one. So does a line, but for the first one beyond: the step from its
index to its number is refused, although every later line is numbered again.
-/

namespace SourceDiagnostics

open Text

namespace Numbering

/-- Only one count is put into the greatest number. -/
theorem narrow_eq_greatest_iff {count : Nat} :
    narrow count = greatest ↔ count = UInt32.size - 1 := by
  have hgreatest : greatest.toNat = UInt32.size - 1 := rfl
  rw [← UInt32.toNat_inj, toNat_narrow, hgreatest]
  simp only [UInt32.size]
  split <;> omega

/-- What comes before is counted, and what follows has the next number or else the greatest one.
Only behind as many as the greatest number there is none. -/
theorem next?_narrow (count : Nat) :
    next? (narrow count) =
      if count = UInt32.size - 1 then none
      else some (UInt32.ofNat (min (count + 1) (UInt32.size - 1))) := by
  simp only [next?, narrow_eq_greatest_iff]
  split
  · rfl
  · next h =>
    have hone : (1 : UInt32).toNat = 1 := rfl
    rw [Option.some.injEq, ← UInt32.toNat_inj, UInt32.toNat_add, hone, toNat_narrow,
      UInt32.toNat_ofNat_of_lt' (Nat.lt_of_le_of_lt (Nat.min_le_right _ _) (by decide))]
    simp only [UInt32.size] at h ⊢
    split <;> omega

/-- The number of what follows, or the greatest one. -/
theorem toNat_nextOrGreatest_narrow (count : Nat) :
    (nextOrGreatest (narrow count)).toNat = min (1 + count) (UInt32.size - 1) := by
  rw [toNat_nextOrGreatest, toNat_narrow]
  simp only [UInt32.size]
  split <;> omega

end Numbering

/-- The number of lines of a text that begin at or before an offset: one at the beginning of the
text, and one behind each line feed. -/
def Text.linesUpTo (text : String) (offset : Nat) : Nat :=
  1 + ((utf8 text.toList).take offset).count 0x0A

namespace LineTable

/-! ### Counting lines -/

/-- Every line of a text begins within the text or at its end. -/
theorem le_of_mem_starts_ofText {text : String} {start : Nat}
    (h : start ∈ (ofText text).starts.toList) : start ≤ (utf8 text.toList).length := by
  rcases List.mem_cons.mp h with rfl | hbehind
  · exact Nat.zero_le _
  · have := (bounds_of_mem_startsBehind hbehind).2
    omega

/-- Halving finds the number of the lines that begin at or before an offset. -/
theorem countUpTo_ofText_eq_linesUpTo (text : String) (offset : Nat) :
    (ofText text).countUpTo offset = linesUpTo text offset := by
  have hsplit := (List.take_append_drop offset (utf8 text.toList)).symm
  have hcount := countUpTo_ofText hsplit
  rw [List.length_take] at hcount
  rcases Nat.le_total offset (utf8 text.toList).length with hle | hge
  · rwa [Nat.min_eq_left hle] at hcount
  · -- All lines begin up to the end, so no more of them begin up to an offset behind it.
    rw [Nat.min_eq_right hge] at hcount
    have hsorted := pairwise_starts_ofText text
    rw [linesUpTo, ← hcount, countUpTo_eq hsorted, countUpTo_eq hsorted]
    congr 1
    rw [List.takeWhile_eq_self_iff.mpr, List.takeWhile_eq_self_iff.mpr]
    · exact fun start hs ↦ by simpa using le_of_mem_starts_ofText hs
    · exact fun start hs ↦ by simpa using Nat.le_trans (le_of_mem_starts_ofText hs) hge

/-- Counted in the table, the lines that begin at or before an offset are as many. -/
theorem countP_starts_ofText (text : String) (offset : Nat) :
    (ofText text).starts.toList.countP (· ≤ offset) = linesUpTo text offset := by
  rw [countP_starts (pairwise_starts_ofText text), countUpTo_ofText_eq_linesUpTo]

theorem linesUpTo_min (text : String) (offset : Nat) :
    linesUpTo text (min offset (utf8 text.toList).length) = linesUpTo text offset := by
  rw [linesUpTo, linesUpTo, ← List.take_eq_take_min]

theorem linesUpTo_pos (text : String) (offset : Nat) : 0 < linesUpTo text offset := by
  rw [linesUpTo]
  omega

/-- The line of an offset is the number of the lines that begin at or before it, or the greatest
number where that is less. The first number beyond the greatest one is refused. -/
theorem lineAt_ofText_eq (text : String) (offset : Nat) :
    (ofText text).lineAt offset =
      if linesUpTo text offset = UInt32.size then .error .lineOverflow
      else .ok (UInt32.ofNat (min (linesUpTo text offset) (UInt32.size - 1))) := by
  have hpos := linesUpTo_pos text offset
  have hsize : linesUpTo text offset - 1 = UInt32.size - 1 ↔
      linesUpTo text offset = UInt32.size := by
    simp only [UInt32.size]
    omega
  rw [lineAt, countUpTo_ofText_eq_linesUpTo, Numbering.next?_narrow, Nat.sub_add_cancel hpos]
  simp only [hsize]
  by_cases h : linesUpTo text offset = UInt32.size
  · rw [if_pos h, if_pos h]
  · rw [if_neg h, if_neg h]

/-! ### Counting characters -/

theorem cut_eq_ok {bytes : List UInt8} {start stop : Nat} (hstart : start ≤ stop)
    (hstop : stop ≤ bytes.length) :
    ∃ middle, cut bytes start stop = .ok middle ∧ bytes.take stop = bytes.take start ++ middle := by
  refine ⟨_, if_pos ⟨hstart, hstop⟩, ?_⟩
  rw [← List.take_add, Nat.add_sub_cancel' hstart]

/-- Where a line begins no later than an offset on it, the offset has a column: one more than the
characters that begin on the line before it, or the greatest number where that is less. -/
theorem placeIn_of_start_le {table : LineTable} {text : String} {offset : Nat} {line : UInt32}
    (h : table.lineAt (min offset text.utf8ByteSize) = .ok line)
    (hle : (table.start? line).getD 0 ≤ min offset text.utf8ByteSize) :
    ∃ column, table.placeIn text offset = .ok ⟨line, column⟩ ∧
      column.toNat =
        min (1 + countBeginnings text.toList ((table.start? line).getD 0)
          (min offset text.utf8ByteSize)) (UInt32.size - 1) := by
  have hlength := length_utf8_toList text
  have hstop : min offset text.utf8ByteSize ≤ (utf8 text.toList).length := by
    rw [hlength]
    exact Nat.min_le_right offset text.utf8ByteSize
  obtain ⟨middle, hcut, hmiddle⟩ := cut_eq_ok hle hstop
  refine ⟨Numbering.nextOrGreatest (Numbering.narrow (beginnings middle)), ?_, ?_⟩
  · rw [placeIn, hlength]
    simp only [bind, Except.bind, h, hcut, pure, Except.pure]
  · rw [Numbering.toNat_nextOrGreatest_narrow, beginnings_of_take_eq hle hmiddle]

/-- In the text that a table was made of, an offset with a line has a column. -/
theorem placeIn_of_lineAt {text : String} {offset : Nat} {line : UInt32}
    (h : (ofText text).lineAt (min offset text.utf8ByteSize) = .ok line)
    (hline : line.toNat = min (linesUpTo text offset) (UInt32.size - 1)) :
    ∃ start column, (ofText text).placeIn text offset = .ok ⟨line, column⟩ ∧
      (ofText text).start? line = some start ∧ start ≤ min offset text.utf8ByteSize ∧
      column.toNat =
        min (1 + countBeginnings text.toList start (min offset text.utf8ByteSize))
          (UInt32.size - 1) := by
  have hlength := length_utf8_toList text
  have hsorted := pairwise_starts_ofText text
  have hcount : (ofText text).countUpTo (min offset text.utf8ByteSize) = linesUpTo text offset := by
    rw [countUpTo_ofText_eq_linesUpTo, ← hlength, linesUpTo_min]
  have hreached : line.toNat ≤ (ofText text).countUpTo (min offset text.utf8ByteSize) := by
    omega
  have hne : line ≠ 0 := by
    have hpos := linesUpTo_pos text offset
    rintro rfl
    simp only [UInt32.toNat_zero, UInt32.size] at hline
    omega
  obtain ⟨start, hstart⟩ :=
    exists_start? hne (Nat.le_trans hreached (countUpTo_le_size hsorted _))
  have hle := (le_countUpTo_iff hsorted hstart _).mp hreached
  obtain ⟨column, hplace, hcolumn⟩ :=
    placeIn_of_start_le h (by rw [hstart, Option.getD_some]; exact hle)
  rw [hstart, Option.getD_some] at hcolumn
  exact ⟨start, column, hplace, hstart, hle, hcolumn⟩

/-- The line of an offset is the number of the lines that begin at or before it, and its column one
more than the characters that begin on that line before it. Where one of them is greater than the
greatest number, this takes its place, with one exception: where as many lines begin as there are
numbers, zero included, the line is refused, and with it the place. -/
theorem ofText_saturates (text : String) (offset : Nat) :
    (ofText text).starts.toList.countP (· ≤ offset) = linesUpTo text offset ∧
    ((ofText text).lineAt offset =
      if linesUpTo text offset = UInt32.size then .error .lineOverflow
      else .ok (UInt32.ofNat (min (linesUpTo text offset) (UInt32.size - 1)))) ∧
    (linesUpTo text offset = UInt32.size ∧
        (ofText text).placeIn text offset = .error .lineOverflow ∨
      linesUpTo text offset ≠ UInt32.size ∧ ∃ line start column,
        (ofText text).placeIn text offset = .ok ⟨line, column⟩ ∧
        line.toNat = min (linesUpTo text offset) (UInt32.size - 1) ∧
        (ofText text).start? line = some start ∧ start ≤ min offset text.utf8ByteSize ∧
        column.toNat =
          min (1 + countBeginnings text.toList start (min offset text.utf8ByteSize))
            (UInt32.size - 1)) := by
  have hlength := length_utf8_toList text
  have hlineAt := lineAt_ofText_eq text (min offset text.utf8ByteSize)
  rw [← hlength, linesUpTo_min] at hlineAt
  refine ⟨countP_starts_ofText text offset, lineAt_ofText_eq text offset, ?_⟩
  by_cases h : linesUpTo text offset = UInt32.size
  · left
    rw [if_pos h] at hlineAt
    refine ⟨h, ?_⟩
    rw [placeIn]
    simp only [bind, Except.bind, hlineAt]
  · right
    rw [if_neg h, hlength] at hlineAt
    have hline : (UInt32.ofNat (min (linesUpTo text offset) (UInt32.size - 1))).toNat =
        min (linesUpTo text offset) (UInt32.size - 1) :=
      UInt32.toNat_ofNat_of_lt' (Nat.lt_of_le_of_lt (Nat.min_le_right _ _) (by decide))
    obtain ⟨start, column, hplace, hstart, hle, hcolumn⟩ := placeIn_of_lineAt hlineAt hline
    exact ⟨h, _, start, column, hplace, hline, hstart, hle, hcolumn⟩

private theorem utf8Length_replicate_lineFeed (n : Nat) :
    utf8Length (List.replicate n '\n') = n := by
  induction n with
  | zero => rfl
  | succ n ih =>
    have hone : '\n'.utf8Size = 1 := rfl
    rw [List.replicate_succ, utf8Length_cons, ih, hone, Nat.add_comm]

/-- Behind line feeds begins one line more than there are. -/
theorem linesUpTo_lineFeeds (n : Nat) : linesUpTo (.ofList (List.replicate n '\n')) n = 1 + n := by
  have hlength : (utf8 (List.replicate n '\n')).length = n := by
    rw [length_utf8, utf8Length_replicate_lineFeed]
  have hcount : (utf8 (List.replicate n '\n')).count 0x0A = n := by
    rw [count_utf8, List.count_replicate_self]
  rw [linesUpTo, String.toList_ofList, List.take_of_length_le (Nat.le_of_eq hlength), hcount]

/-- Behind as many line feeds as the greatest number, the line is refused, although the greatest
number would be left for it. -/
theorem lineAt_behind_lineFeeds :
    linesUpTo (.ofList (List.replicate 4294967295 '\n')) 4294967295 = 4294967296 ∧
      (ofText (.ofList (List.replicate 4294967295 '\n'))).lineAt 4294967295 =
        .error .lineOverflow := by
  have hlines := linesUpTo_lineFeeds 4294967295
  refine ⟨hlines, ?_⟩
  rw [lineAt_ofText_eq, if_pos hlines]

end LineTable

end SourceDiagnostics
