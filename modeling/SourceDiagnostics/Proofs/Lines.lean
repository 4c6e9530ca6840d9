import SourceDiagnostics.Proofs.Places

/-!
# Lines, and offsets found again

The lines of a table divide the offsets among them: each holds the offsets from its start up to
the start of the next one. Since lines begin between characters, the offset between two characters
can be found again from its place, by going to the start of the line and over as many characters
as stand before the column. So places are ordered as the offsets are that they stand for.
-/

namespace SourceDiagnostics

open Text

namespace Text

/-- The characters that begin at or behind an offset. -/
def charsFrom : Nat → List Char → List Char
  | _, [] => []
  | offset, c :: chars => if offset = 0 then c :: chars else charsFrom (offset - c.utf8Size) chars

theorem charsFrom_zero (chars : List Char) : charsFrom 0 chars = chars := by
  cases chars <;> rfl

/-- Behind the bytes of some characters begin those that follow them. -/
theorem charsFrom_utf8Length (front back : List Char) :
    charsFrom (utf8Length front) (front ++ back) = back := by
  induction front with
  | nil => exact charsFrom_zero back
  | cons c front ih =>
    have hpos := c.utf8Size_pos
    rw [List.cons_append, utf8Length_cons, charsFrom, if_neg (by omega), Nat.add_sub_cancel_left,
      ih]

/-- Where characters are cut twice, before the later cut are those before the earlier one and some
more. -/
theorem exists_between {front back front' back' : List Char}
    (happend : front ++ back = front' ++ back') (hlt : utf8Length front < utf8Length front') :
    ∃ more, more ≠ [] ∧ front' = front ++ more := by
  rcases List.append_eq_append_iff.mp happend with ⟨more, rfl, -⟩ | ⟨more, rfl, -⟩
  · refine ⟨more, ?_, rfl⟩
    rintro rfl
    rw [List.append_nil] at hlt
    exact Nat.lt_irrefl _ hlt
  · rw [utf8Length_append] at hlt
    omega

/-- Each position of a text is behind some of its characters and before the others. -/
theorem exists_front_of_pos {text : String} (position : text.Pos) :
    ∃ front back, text.toList = front ++ back ∧ position.offset.byteIdx = utf8Length front := by
  obtain ⟨front, back, htext, hoffset⟩ :=
    String.Pos.Raw.isValid_iff_exists_append.mp position.isValid
  refine ⟨front.toList, back.toList, ?_, ?_⟩
  · rw [← String.toList_append, ← htext]
  · rw [hoffset, String.byteIdx_rawEndPos, utf8Length_toList]

end Text

namespace LineTable

/-! ### The lines of a table divide the offsets -/

theorem pairwise_startsBehind (offset : Nat) (bytes : List UInt8) :
    (startsBehind offset bytes).Pairwise (· < ·) := by
  induction bytes generalizing offset with
  | nil => exact .nil
  | cons byte bytes ih =>
    rw [startsBehind]
    split
    · apply List.Pairwise.cons _ (ih (offset + 1))
      exact fun start hs ↦ (bounds_of_mem_startsBehind hs).1
    · exact ih (offset + 1)

/-- The lines of a text begin in ascending order. -/
theorem pairwise_starts_ofText (text : String) :
    (ofText text).starts.toList.Pairwise (· < ·) := by
  apply List.Pairwise.cons _ (pairwise_startsBehind 0 _)
  exact fun start hs ↦ (bounds_of_mem_startsBehind hs).1

/-- In ascending order, everything behind the first start past an offset is past it too. -/
theorem lt_of_mem_dropWhile {starts : List Nat} {offset start : Nat}
    (h : starts.Pairwise (· < ·)) (hstart : start ∈ starts.dropWhile (· ≤ offset)) :
    offset < start := by
  induction h with
  | nil => cases hstart
  | @cons first starts hfirst _ ih =>
    by_cases hle : first ≤ offset
    · rw [List.dropWhile_cons_of_pos (by simpa using hle)] at hstart
      exact ih hstart
    · rw [List.dropWhile_cons_of_neg (by simpa using hle)] at hstart
      rcases List.mem_cons.mp hstart with rfl | hlater
      · omega
      · have := hfirst start hlater
        omega

private theorem toNat_pos {line : UInt32} (h : line ≠ 0) : 0 < line.toNat :=
  UInt32.lt_iff_toNat_lt.mp (UInt32.pos_iff_ne_zero.mpr h)

/-- The table has the lines from one up to their number. -/
theorem start?_eq_none_iff {table : LineTable} {line : UInt32} :
    table.start? line = none ↔ line = 0 ∨ table.size < line.toNat := by
  rw [start?, size]
  split
  · next h => simp [h]
  · next h =>
    have := toNat_pos h
    rw [Array.getElem?_eq_none_iff]
    simp only [h, false_or]
    omega

theorem start?_eq_some_iff {table : LineTable} {line : UInt32} {start : Nat} :
    table.start? line = some start ↔
      0 < line.toNat ∧ table.starts[line.toNat - 1]? = some start := by
  rw [start?]
  split
  · next h => simp [h]
  · next h => simp [toNat_pos h]

theorem exists_start? {table : LineTable} {line : UInt32} (h : line ≠ 0)
    (hle : line.toNat ≤ table.size) : ∃ start, table.start? line = some start := by
  rw [← Option.ne_none_iff_exists', Ne, start?_eq_none_iff, not_or, not_lt]
  exact ⟨h, hle⟩

/-- In a table in ascending order, the starts counted up to an offset are those at or before it. -/
theorem countUpTo_eq {table : LineTable} (h : table.starts.toList.Pairwise (· < ·))
    (offset : Nat) :
    table.countUpTo offset = (table.starts.toList.takeWhile (· ≤ offset)).length := by
  have hsplit := (List.takeWhile_append_dropWhile (p := (· ≤ offset))
    (l := table.starts.toList)).symm
  have hsize := congrArg List.length hsplit
  rw [Array.length_toList, List.length_append] at hsize
  refine countWithin_eq hsplit ?_ ?_ (Nat.zero_le _) ?_ (Nat.le_refl _)
  · exact fun start hs ↦ by simpa using List.mem_takeWhile_imp hs
  · exact fun start hs ↦ lt_of_mem_dropWhile h hs
  · rw [size]
    omega

/-- In a table in ascending order, halving counts what counting them all does. -/
theorem countP_starts {table : LineTable} (h : table.starts.toList.Pairwise (· < ·))
    (offset : Nat) : table.starts.toList.countP (· ≤ offset) = table.countUpTo offset := by
  have hsplit := List.takeWhile_append_dropWhile (p := (· ≤ offset)) (l := table.starts.toList)
  have hbehind : (table.starts.toList.dropWhile (· ≤ offset)).countP (· ≤ offset) = 0 := by
    apply List.countP_eq_zero.mpr
    intro start hs
    have := lt_of_mem_dropWhile h hs
    simpa using this
  have hfront : (table.starts.toList.takeWhile (· ≤ offset)).countP (· ≤ offset) =
      (table.starts.toList.takeWhile (· ≤ offset)).length :=
    List.countP_eq_length.mpr fun start hs ↦ by simpa using List.mem_takeWhile_imp hs
  have hcount := congrArg (List.countP (· ≤ offset)) hsplit
  rw [List.countP_append, hfront, hbehind, Nat.add_zero] at hcount
  rw [countUpTo_eq h, hcount]

theorem countUpTo_le_size {table : LineTable} (h : table.starts.toList.Pairwise (· < ·))
    (offset : Nat) : table.countUpTo offset ≤ table.size := by
  rw [countUpTo_eq h, size, ← Array.length_toList]
  exact (List.takeWhile_prefix _).length_le

/-- The lines counted up to an offset reach as far as those that begin at or before it. -/
theorem le_countUpTo_iff {table : LineTable} (h : table.starts.toList.Pairwise (· < ·))
    {line : UInt32} {start : Nat} (hstart : table.start? line = some start) (offset : Nat) :
    line.toNat ≤ table.countUpTo offset ↔ start ≤ offset := by
  obtain ⟨hpos, hstart⟩ := start?_eq_some_iff.mp hstart
  have hsplit := List.takeWhile_append_dropWhile (p := (· ≤ offset)) (l := table.starts.toList)
  rw [← Array.getElem?_toList, ← hsplit] at hstart
  rw [countUpTo_eq h]
  constructor
  · intro hle
    rw [List.getElem?_append_left (by omega)] at hstart
    simpa using List.mem_takeWhile_imp (List.mem_of_getElem? hstart)
  · intro hle
    apply Nat.le_of_not_lt
    intro hlt
    rw [List.getElem?_append_right (by omega)] at hstart
    have := lt_of_mem_dropWhile h (List.mem_of_getElem? hstart)
    omega

/-! ### Where the lines of a text begin -/

theorem startsBehind_utf8EncodeChar {c : Char} (hc : c ≠ '\n') (offset : Nat) :
    startsBehind offset (String.utf8EncodeChar c) = [] := by
  rw [← List.length_eq_zero_iff, length_startsBehind, count_utf8EncodeChar, if_neg hc]

/-- Among the starts behind line feeds, each is right behind one, and its index tells how many line
feeds come before that one. -/
theorem exists_lineFeed_of_startsBehind {chars : List Char} {offset i start : Nat}
    (h : (startsBehind offset (utf8 chars))[i]? = some start) :
    ∃ front back, chars = front ++ '\n' :: back ∧
      start = offset + utf8Length (front ++ ['\n']) ∧ front.count '\n' = i := by
  induction chars generalizing offset i with
  | nil => cases h
  | cons c chars ih =>
    by_cases hc : c = '\n'
    · subst hc
      cases i with
      | zero => exact ⟨[], chars, rfl, (Option.some.inj h).symm, rfl⟩
      | succ i =>
        have hbehind : (startsBehind (offset + 1) (utf8 chars))[i]? = some start := h
        obtain ⟨front, back, rfl, rfl, hcount⟩ := ih hbehind
        refine ⟨'\n' :: front, back, rfl, ?_, ?_⟩
        · rw [List.cons_append, utf8Length_cons, Nat.add_assoc]
          rfl
        · rw [List.count_cons_self, hcount]
    · rw [utf8_cons, startsBehind_append, startsBehind_utf8EncodeChar hc, List.nil_append,
        String.length_utf8EncodeChar] at h
      obtain ⟨front, back, rfl, rfl, hcount⟩ := ih h
      refine ⟨c :: front, back, rfl, ?_, ?_⟩
      · rw [List.cons_append, utf8Length_cons, Nat.add_assoc]
      · rw [List.count_cons_of_ne hc, hcount]

/-- A line of a text begins behind as many line feeds as there are lines before it, the last one
right in front of it. -/
theorem exists_front_of_start? {text : String} {line : UInt32} {start : Nat}
    (h : (ofText text).start? line = some start) :
    ∃ front back, text.toList = front ++ back ∧ start = utf8Length front ∧
      line.toNat = 1 + front.count '\n' ∧ lastLine front = [] := by
  obtain ⟨hpos, h⟩ := start?_eq_some_iff.mp h
  rw [ofText, List.getElem?_toArray] at h
  cases hi : line.toNat - 1 with
  | zero =>
    rw [hi, List.getElem?_cons_zero] at h
    exact ⟨[], text.toList, rfl, (Option.some.inj h).symm, by rw [List.count_nil]; omega, rfl⟩
  | succ i =>
    rw [hi, List.getElem?_cons_succ] at h
    obtain ⟨front, back, htext, hstart, hcount⟩ := exists_lineFeed_of_startsBehind h
    refine ⟨front ++ ['\n'], back, ?_, ?_, ?_, ?_⟩
    · rw [htext, List.append_assoc, List.singleton_append]
    · rw [hstart, Nat.zero_add]
    · rw [List.count_append, hcount, List.count_singleton_self]
      omega
    · exact List.rtakeWhile_concat_neg _ _ _ (by simp)

/-- There are no more lines in a text than bytes and one. -/
theorem size_ofText_le (text : String) : (ofText text).size ≤ 1 + text.utf8ByteSize := by
  rw [size_ofText, ← utf8Length_toList, ← length_utf8]
  exact Nat.add_le_add_left List.count_le_length 1

/-- A line holds the offsets from its start up to, but without, the start of the line after it. -/
theorem lineAt_ofText_eq_ok_iff {text : String} {line : UInt32} {start : Nat}
    (hsize : text.utf8ByteSize < UInt32.size - 1)
    (hstart : (ofText text).start? line = some start) (offset : Nat) :
    (ofText text).lineAt offset = .ok line ↔
      start ≤ offset ∧ ∀ next behind, next.toNat = line.toNat + 1 →
        (ofText text).start? next = some behind → offset < behind := by
  have hsorted := pairwise_starts_ofText text
  have hlines := size_ofText_le text
  have hle := countUpTo_le_size hsorted offset
  have hone : (1 : UInt32).toNat = 1 := rfl
  have hpos : (1 : UInt32).toNat ≤ (ofText text).countUpTo offset :=
    (le_countUpTo_iff hsorted rfl offset).mpr (Nat.zero_le offset)
  rw [lineAt_eq_ok_iff (by omega) (by omega), ← le_countUpTo_iff hsorted hstart]
  -- The line is the last one counted exactly when it is counted and the next one is not.
  constructor
  · intro hcount
    refine ⟨by omega, fun next behind hnext hbehind ↦ Nat.lt_of_not_le fun hreached ↦ ?_⟩
    have := (le_countUpTo_iff hsorted hbehind offset).mpr hreached
    omega
  · rintro ⟨hcounted, hlast⟩
    apply Nat.le_antisymm _ hcounted
    apply Nat.le_of_not_lt
    intro hmore
    have hnext : (UInt32.ofNat (line.toNat + 1)).toNat = line.toNat + 1 :=
      UInt32.toNat_ofNat_of_lt' (by omega)
    have hne : UInt32.ofNat (line.toNat + 1) ≠ 0 := by
      rw [Ne, ← UInt32.toNat_inj, hnext, UInt32.toNat_zero]
      omega
    obtain ⟨behind, hbehind⟩ : ∃ behind, (ofText text).start? _ = some behind :=
      exists_start? hne (by omega)
    have hbefore := hlast _ behind hnext hbehind
    have := (le_countUpTo_iff hsorted hbehind offset).mp (by omega)
    omega

end LineTable

/-- Only one place is behind some characters. -/
theorem Place.IsBehind.unique {front : List Char} {first second : Place}
    (hfirst : first.IsBehind front) (hsecond : second.IsBehind front) : first = second := by
  cases first
  cases second
  rw [Place.mk.injEq, ← UInt32.toNat_inj, ← UInt32.toNat_inj]
  exact ⟨hfirst.line.trans hsecond.line.symm, hfirst.column.trans hsecond.column.symm⟩

/-- The spans of single characters are ordered as their places are. -/
theorem Span.order_point (a b : Location) :
    (point a).order (point b) = compare a.place b.place := by
  rw [order]
  cases h : compare a.place b.place with
  | lt => simp only [point, h, Ordering.lt_then]
  | gt => simp only [point, h, Ordering.gt_then]
  | eq =>
    have heq : a.place = b.place := Std.LawfulEqOrd.eq_of_compare h
    simp only [point, heq, Std.ReflOrd.compare_self, Ordering.eq_then]

namespace Source

/-! ### Offsets found again -/

/-- The offset that a place stands for: from the start of its line, over the characters before its
column. -/
def offsetOf? (source : Source) (place : Place) : Option Nat :=
  (source.lineTable.start? place.line).map fun start ↦
    start + utf8Length ((charsFrom start source.text.toList).take (place.column.toNat - 1))

/-- From the place behind some characters, the number of their bytes is found again. -/
theorem offsetOf?_of_isBehind {source : Source} {front back : List Char} {place : Place}
    (h : source.text.toList = front ++ back) (hplace : place.IsBehind front) :
    source.offsetOf? place = some (utf8Length front) := by
  have hbytes : utf8 source.text.toList = utf8 front ++ utf8 back := by
    rw [h, utf8_append]
  have hline : place.line.toNat = 1 + (utf8 front).count 0x0A := by
    rw [count_utf8, hplace.line]
  have hsplit : front.rdropWhile (· != '\n') ++ lastLine front = front :=
    List.rdropWhile_append_rtakeWhile
  have hlength : utf8Length (front.rdropWhile (· != '\n')) + utf8Length (lastLine front) =
      utf8Length front := by
    rw [← utf8Length_append, hsplit]
  have hstart : source.lineTable.start? place.line =
      some (utf8Length (front.rdropWhile (· != '\n'))) := by
    rw [lineTable, LineTable.start?_ofText hbytes hline, lastLineBytes_utf8, length_utf8,
      length_utf8, ← hlength, Nat.add_sub_cancel_right]
  have hchars : charsFrom (utf8Length (front.rdropWhile (· != '\n'))) source.text.toList =
      lastLine front ++ back := by
    rw [h, ← charsFrom_utf8Length (front.rdropWhile (· != '\n')) (lastLine front ++ back),
      ← List.append_assoc, hsplit]
  rw [offsetOf?, hstart, Option.map_some, hchars, hplace.column, Nat.add_sub_cancel_left,
    List.take_left, hlength]

/-- A line of a source that is not too large is located at its first column. -/
theorem locate_start? {source : Source} (hsize : source.text.utf8ByteSize < UInt32.size - 1)
    {line : UInt32} {start : Nat} (hstart : source.lineTable.start? line = some start) :
    source.locate start = .ok ⟨⟨line, 1⟩, source.file⟩ := by
  obtain ⟨front, back, htext, rfl, hline, hlast⟩ := LineTable.exists_front_of_start? hstart
  obtain ⟨⟨line', column⟩, hlocate, hbehind⟩ := locate_utf8Length htext hsize
  have hlines : line' = line := by
    rw [← UInt32.toNat_inj, hline]
    exact hbehind.line
  have hcolumn : column = 1 := by
    rw [← UInt32.toNat_inj]
    have := hbehind.column
    rwa [hlast] at this
  rw [hlocate, hlines, hcolumn]

/-- Places behind characters of one text are ordered as the numbers of bytes before them. -/
theorem compare_of_isBehind_of_append {front back front' back' : List Char} {place place' : Place}
    (happend : front ++ back = front' ++ back') (hplace : place.IsBehind front)
    (hplace' : place'.IsBehind front') :
    compare place place' = compare (utf8Length front) (utf8Length front') := by
  rcases Nat.lt_trichotomy (utf8Length front) (utf8Length front') with hlt | heq | hgt
  · obtain ⟨more, hmore, rfl⟩ := exists_between happend hlt
    rw [Nat.compare_eq_lt.mpr hlt]
    exact Place.compare_of_isBehind hplace hplace' hmore
  · obtain rfl := eq_of_utf8Length_eq happend heq
    rw [hplace.unique hplace', Std.ReflOrd.compare_self, Std.ReflOrd.compare_self]
  · obtain ⟨more, hmore, rfl⟩ := exists_between happend.symm hgt
    rw [Nat.compare_eq_gt.mpr hgt, Std.OrientedOrd.eq_swap,
      Place.compare_of_isBehind hplace' hplace hmore, Ordering.swap_lt]

/-- A position between characters is located behind those before it. -/
theorem exists_locate_pos {source : Source}
    (hsize : source.text.utf8ByteSize < UInt32.size - 1) (position : source.text.Pos) :
    ∃ front back place, source.text.toList = front ++ back ∧
      position.offset.byteIdx = utf8Length front ∧
      source.locate (utf8Length front) = .ok ⟨place, source.file⟩ ∧ place.IsBehind front := by
  obtain ⟨front, back, htext, hoffset⟩ := exists_front_of_pos position
  obtain ⟨place, hlocate, hbehind⟩ := locate_utf8Length htext hsize
  exact ⟨front, back, place, htext, hoffset, hlocate, hbehind⟩

/-- In a source with fewer bytes than there are numbers for lines and columns, the spans at two
positions between characters are ordered as the positions are, and each position is found again
from its place. Each line of the table begins at its first column and holds the offsets from there
up to the start of the next line, and there are no other lines. -/
theorem locate_isOrderEmbedding {source : Source}
    (hsize : source.text.utf8ByteSize < UInt32.size - 1) :
    (∀ a b : source.text.Pos, ∃ first second,
      source.locate a.offset.byteIdx = .ok first ∧ source.locate b.offset.byteIdx = .ok second ∧
      (Span.point first).order (Span.point second) =
        compare a.offset.byteIdx b.offset.byteIdx ∧
      (first.place = second.place → a = b)) ∧
    (∀ a : source.text.Pos, ∃ location, source.locate a.offset.byteIdx = .ok location ∧
      source.offsetOf? location.place = some a.offset.byteIdx) ∧
    (∀ line : UInt32, line ≠ 0 → line.toNat ≤ source.lineTable.size →
      ∃ start, source.lineTable.start? line = some start ∧
        source.locate start = .ok ⟨⟨line, 1⟩, source.file⟩ ∧
        ∀ offset, source.lineTable.lineAt offset = .ok line ↔
          start ≤ offset ∧ ∀ next behind, next.toNat = line.toNat + 1 →
            source.lineTable.start? next = some behind → offset < behind) ∧
    ∀ line : UInt32, line = 0 ∨ source.lineTable.size < line.toNat →
      source.lineTable.start? line = none := by
  refine ⟨?_, ?_, ?_, ?_⟩
  · intro a b
    obtain ⟨front, back, place, htext, hoffset, hlocate, hbehind⟩ := exists_locate_pos hsize a
    obtain ⟨front', back', place', htext', hoffset', hlocate', hbehind'⟩ :=
      exists_locate_pos hsize b
    have horder : compare place place' = compare (utf8Length front) (utf8Length front') :=
      compare_of_isBehind_of_append (htext.symm.trans htext') hbehind hbehind'
    rw [hoffset, hoffset']
    refine ⟨_, _, hlocate, hlocate', ?_, ?_⟩
    · rw [Span.order_point]
      exact horder
    · rintro (rfl : place = place')
      apply String.Pos.ext
      apply String.Pos.Raw.ext
      rw [hoffset, hoffset', ← Std.compare_eq_iff_eq, ← horder, Std.ReflOrd.compare_self]
  · intro a
    obtain ⟨front, back, place, htext, hoffset, hlocate, hbehind⟩ := exists_locate_pos hsize a
    rw [hoffset]
    exact ⟨_, hlocate, offsetOf?_of_isBehind htext hbehind⟩
  · intro line hline hle
    obtain ⟨start, hstart⟩ := LineTable.exists_start? hline hle
    exact ⟨start, hstart, locate_start? hsize hstart,
      LineTable.lineAt_ofText_eq_ok_iff hsize hstart⟩
  · exact fun line hline ↦ LineTable.start?_eq_none_iff.mpr hline

/-- The start of a source comes before its end, the end is found again from its place, and the
second line begins at its first column. -/
theorem locate_isOrderEmbedding_two :
    "é\nab€".utf8ByteSize < UInt32.size - 1 ∧
      (∃ first second, locate ⟨"a.txt", "é\nab€"⟩ 0 = .ok first ∧
        locate ⟨"a.txt", "é\nab€"⟩ 8 = .ok second ∧
        (Span.point first).order (Span.point second) = .lt) ∧
      (∃ location, locate ⟨"a.txt", "é\nab€"⟩ 8 = .ok location ∧
        offsetOf? ⟨"a.txt", "é\nab€"⟩ location.place = some 8) ∧
      ∃ start, (lineTable ⟨"a.txt", "é\nab€"⟩).start? 2 = some start ∧
        locate ⟨"a.txt", "é\nab€"⟩ start = .ok ⟨⟨2, 1⟩, "a.txt"⟩ := by
  have hsize : "é\nab€".utf8ByteSize < UInt32.size - 1 := by decide
  obtain ⟨horder, hfound, hlines, -⟩ := @locate_isOrderEmbedding ⟨"a.txt", "é\nab€"⟩ hsize
  have hlineCount : (2 : UInt32).toNat ≤ (lineTable ⟨"a.txt", "é\nab€"⟩).size := by
    rw [lineTable, LineTable.size_ofText]
    decide
  obtain ⟨first, second, hfirst, hsecond, hlt, -⟩ :=
    horder "é\nab€".startPos "é\nab€".endPos
  obtain ⟨start, hstart, hlocate, -⟩ := hlines 2 (by decide) hlineCount
  exact ⟨hsize, ⟨first, second, hfirst, hsecond, hlt⟩, hfound "é\nab€".endPos, start, hstart,
    hlocate⟩

end Source

end SourceDiagnostics
