import SourceDiagnostics.Proofs.Places

/-!
# Any offset of a source

An offset may lie anywhere in a source, also inside a character, or behind its end. Its line is one
more than the line feeds before it, and its column one more than the characters that begin on that
line before it. So an offset inside a character has the place of the character behind it, and one
behind the end has the place of the end.
-/

namespace SourceDiagnostics

open Text

namespace Text

/-- The offsets at which characters begin, the first of which is at `offset`. -/
def beginningsFrom (offset : Nat) : List Char → List Nat
  | [] => []
  | c :: chars => offset :: beginningsFrom (offset + c.utf8Size) chars

/-- The line that an offset is on begins at `start`: behind a line feed or where the bytes begin,
and no line feed stands between there and the offset. -/
structure IsLineStart (bytes : List UInt8) (offset start : Nat) : Prop where
  le : start ≤ offset
  behind : start = 0 ∨ bytes[start - 1]? = some 0x0A
  unbroken : ∀ i, start ≤ i → i < offset → bytes[i]? ≠ some 0x0A

/-- The characters that begin from `start` on and before `stop`. -/
def countBeginnings (chars : List Char) (start stop : Nat) : Nat :=
  (beginningsFrom 0 chars).countP fun i ↦ start ≤ i && i < stop

end Text

/-- The place of an offset, counted along a text. -/
structure Place.IsAt (place : Place) (text : String) (offset : Nat) : Prop where
  line : place.line.toNat = 1 + ((utf8 text.toList).take offset).count 0x0A
  column : ∃ start, IsLineStart (utf8 text.toList) offset start ∧
    place.column.toNat = 1 + countBeginnings text.toList start offset

namespace LineTable

/-! ### Characters among the first bytes -/

theorem beginnings_append (front back : List UInt8) :
    beginnings (front ++ back) = beginnings front + beginnings back :=
  List.countP_append

theorem beginnings_eq_zero {bytes : List UInt8} (h : ∀ byte ∈ bytes, isContinuation byte = true) :
    beginnings bytes = 0 := by
  apply List.countP_eq_zero.mpr
  intro byte hb
  simp [h byte hb]

private theorem le_of_mem_beginningsFrom {offset i : Nat} {chars : List Char}
    (h : i ∈ beginningsFrom offset chars) : offset ≤ i := by
  induction chars generalizing offset with
  | nil => cases h
  | cons c chars ih =>
    rcases List.mem_cons.mp h with rfl | h
    · exact Nat.le_refl _
    · have := ih h
      omega

/-- A character begins with its first byte and with no other one. -/
private theorem beginnings_take_utf8EncodeChar (c : Char) (n : Nat) :
    beginnings ((String.utf8EncodeChar c).take n) = if 0 < n then 1 else 0 := by
  obtain ⟨lead, tail, hbytes, hlead, htail, -⟩ := utf8EncodeChar_eq_cons c
  cases n with
  | zero => rfl
  | succ n =>
    have hzero : beginnings (tail.take n) = 0 :=
      beginnings_eq_zero fun byte hb ↦ htail byte (List.mem_of_mem_take hb)
    unfold beginnings at hzero ⊢
    rw [hbytes, List.take_succ_cons, List.countP_cons_of_pos (by simp [hlead]), hzero]
    rfl

/-- Among the first bytes of some characters begin as many of them as have offsets there. -/
theorem beginnings_take (offset n : Nat) (chars : List Char) :
    beginnings ((utf8 chars).take n) =
      (beginningsFrom offset chars).countP fun i ↦ decide (i < offset + n) := by
  induction chars generalizing offset n with
  | nil => rw [utf8_nil, List.take_nil]; rfl
  | cons c chars ih =>
    have hsize : (String.utf8EncodeChar c).length = c.utf8Size := String.length_utf8EncodeChar c
    have hrest : beginnings ((utf8 chars).take (n - c.utf8Size)) =
        (beginningsFrom (offset + c.utf8Size) chars).countP fun i ↦ decide (i < offset + n) := by
      by_cases hn : c.utf8Size ≤ n
      · rw [ih (offset + c.utf8Size), Nat.add_assoc, Nat.add_sub_cancel' hn]
      · -- The first character is cut off, so that no other one begins before the cut.
        have hzero : n - c.utf8Size = 0 := by omega
        rw [hzero, List.take_zero]
        symm
        apply List.countP_eq_zero.mpr
        intro i hi
        have := le_of_mem_beginningsFrom hi
        simp only [decide_eq_true_eq]
        omega
    rw [utf8_cons, List.take_append, beginnings_append, hsize, hrest,
      beginnings_take_utf8EncodeChar, beginningsFrom, List.countP_cons, Nat.add_comm]
    simp

private theorem countP_lt_eq {start stop : Nat} (h : start ≤ stop) (offsets : List Nat) :
    offsets.countP (fun i ↦ decide (i < stop)) =
      offsets.countP (fun i ↦ decide (i < start)) +
        offsets.countP fun i ↦ start ≤ i && i < stop := by
  induction offsets with
  | nil => rfl
  | cons i offsets ih =>
    rw [List.countP_cons, List.countP_cons, List.countP_cons, ih]
    by_cases hstart : i < start
    · have hstop : i < stop := by omega
      have hle : ¬start ≤ i := by omega
      simp only [hstart, hstop, hle]
      simp
      omega
    · have hle : start ≤ i := by omega
      simp only [hstart, hle]
      simp
      omega

/-- The characters that begin among bytes from `start` on are those with offsets there. -/
theorem beginnings_of_take_eq {chars : List Char} {start stop : Nat} {middle : List UInt8}
    (hle : start ≤ stop) (h : (utf8 chars).take stop = (utf8 chars).take start ++ middle) :
    beginnings middle = countBeginnings chars start stop := by
  have hcount := congrArg beginnings h
  rw [beginnings_append, beginnings_take 0, beginnings_take 0, Nat.zero_add, Nat.zero_add,
    countP_lt_eq hle] at hcount
  unfold countBeginnings
  omega

/-! ### The place of an offset within the text -/

/-- A line that goes on behind some bytes begins behind the last line feed among them. -/
theorem isLineStart_append {earlier line : List UInt8} (back : List UInt8)
    (hearlier : ∀ byte ∈ earlier.getLast?, byte = 0x0A) (hline : (0x0A : UInt8) ∉ line) :
    IsLineStart (earlier ++ line ++ back) (earlier ++ line).length earlier.length := by
  constructor
  · rw [List.length_append]
    omega
  · by_cases hnil : earlier = []
    · left
      rw [hnil, List.length_nil]
    · right
      have hpos := List.length_pos_iff.mpr hnil
      have hlast := List.getLast?_eq_some_getLast hnil
      rw [List.append_assoc, List.getElem?_append_left (by omega), ← List.getLast?_eq_getElem?,
        hlast, hearlier _ hlast]
  · intro i hstart hi hfeed
    rw [List.getElem?_append_left hi, List.getElem?_append_right hstart] at hfeed
    exact hline (List.mem_of_getElem? hfeed)

/-- Bytes are what ends in their last line feed and the bytes behind it. -/
theorem exists_lastLine (bytes : List UInt8) :
    ∃ earlier line, bytes = earlier ++ line ∧ lastLineBytes bytes = line ∧
      (∀ byte ∈ earlier.getLast?, byte = 0x0A) ∧ (0x0A : UInt8) ∉ line := by
  refine ⟨_, _, List.rdropWhile_append_rtakeWhile.symm, rfl, ?_, ?_⟩
  · intro byte hbyte
    by_cases hnil : bytes.rdropWhile (· != 0x0A) = []
    · rw [hnil] at hbyte
      cases hbyte
    · have hlast := List.rdropWhile_last_not _ _ hnil
      rw [Option.mem_def, List.getLast?_eq_some_getLast hnil, Option.some.injEq] at hbyte
      rw [hbyte] at hlast
      simpa using hlast
  · intro hm
    have hstays := List.mem_rtakeWhile_imp hm
    simp at hstays

/-- An offset within a text that is not too large has its place. -/
theorem placeIn_isAt {text : String} {front back : List UInt8}
    (h : utf8 text.toList = front ++ back) (hsize : text.utf8ByteSize < UInt32.size - 1) :
    ∃ place, (ofText text).placeIn text front.length = .ok place ∧
      place.IsAt text front.length := by
  have hlength := congrArg List.length h
  rw [length_utf8, utf8Length_toList, List.length_append] at hlength
  have hcount : front.count 0x0A ≤ front.length := List.count_le_length
  obtain ⟨number, hplace, hnumber⟩ := placeIn_ofText h (by omega)
  obtain ⟨earlier, line, rfl, hline, hearlier, hfeed⟩ := exists_lastLine front
  have hlengths : (earlier ++ line).length = earlier.length + line.length := List.length_append
  have hstart := isLineStart_append back hearlier hfeed
  have hcolumn : beginnings line =
      countBeginnings text.toList earlier.length (earlier ++ line).length := by
    apply beginnings_of_take_eq (by omega)
    rw [h, List.take_left, List.append_assoc, List.take_left]
  have hbeginnings : beginnings line ≤ line.length := List.countP_le_length
  refine ⟨_, hplace, ?_, earlier.length, ?_, ?_⟩
  · rw [h, List.take_left, hnumber]
  · rwa [h]
  · rw [hline, ← hcolumn, Numbering.toNat_nextOrGreatest, Numbering.toNat_narrow,
      if_pos (by omega), Nat.min_eq_left (by omega), Nat.add_comm]

/-! ### Offsets inside characters and behind the end -/

/-- Bytes that continue a character change nothing about the place behind them. -/
theorem placeIn_append_continuation {text : String} {front tail back : List UInt8}
    (h : utf8 text.toList = front ++ tail ++ back) (hsize : text.utf8ByteSize < UInt32.size - 1)
    (htail : ∀ byte ∈ tail, isContinuation byte = true) :
    (ofText text).placeIn text (front ++ tail).length =
      (ofText text).placeIn text front.length := by
  have hlength := congrArg List.length h
  rw [length_utf8, utf8Length_toList, List.length_append, List.length_append] at hlength
  have hcount : (front ++ tail).count 0x0A = front.count 0x0A := by
    rw [List.count_append, List.count_eq_zero.mpr (lineFeed_not_mem_tail htail), Nat.add_zero]
  have hle : front.count 0x0A ≤ front.length := List.count_le_length
  have hline : lastLineBytes (front ++ tail) = lastLineBytes front ++ tail := by
    apply rtakeWhile_append_of_pos
    intro byte hb
    rw [bne_iff_ne]
    rintro rfl
    exact lineFeed_not_mem_tail htail hb
  obtain ⟨number, hplace, hnumber⟩ := placeIn_ofText h (by omega)
  rw [List.append_assoc] at h
  obtain ⟨number', hplace', hnumber'⟩ := placeIn_ofText h (by omega)
  rw [hplace, hplace', hline, beginnings_append, beginnings_eq_zero htail, Nat.add_zero]
  rw [hcount, ← hnumber', UInt32.toNat_inj] at hnumber
  rw [hnumber]

/-- An offset inside a character has the place right behind the character. -/
theorem placeIn_inside {text : String} {front back : List Char} {c : Char} {offset : Nat}
    (h : text.toList = front ++ c :: back) (hsize : text.utf8ByteSize < UInt32.size - 1)
    (hlow : utf8Length front < offset) (hhigh : offset ≤ utf8Length (front ++ [c])) :
    (ofText text).placeIn text offset =
      (ofText text).placeIn text (utf8Length (front ++ [c])) := by
  obtain ⟨lead, tail, hbytes, -, htail, -⟩ := utf8EncodeChar_eq_cons c
  have hutf8 : utf8 text.toList = utf8 front ++ [lead] ++ tail ++ utf8 back := by
    rw [h, utf8_append, utf8_cons, hbytes]
    simp
  have hbehind : utf8Length (front ++ [c]) = (utf8 front ++ [lead] ++ tail).length := by
    rw [← length_utf8, utf8_append, utf8_cons, hbytes]
    simp
  -- Both offsets are behind the first byte of the character and some that continue it.
  have hfirst := placeIn_append_continuation hutf8 hsize htail
  have hcut : utf8 text.toList =
      utf8 front ++ [lead] ++ tail.take (offset - utf8Length front - 1) ++
        (tail.drop (offset - utf8Length front - 1) ++ utf8 back) := by
    rw [hutf8, List.append_assoc _ _ (_ ++ _), ← List.append_assoc _ _ (utf8 back),
      List.take_append_drop, ← List.append_assoc]
  have hsecond := placeIn_append_continuation hcut hsize
    fun byte hb ↦ htail byte (List.mem_of_mem_take hb)
  have hoffset : (utf8 front ++ [lead] ++ tail.take (offset - utf8Length front - 1)).length =
      offset := by
    simp only [List.length_append, List.length_singleton, List.length_take, length_utf8]
      at hbehind ⊢
    omega
  rw [hoffset] at hsecond
  rw [hsecond, hbehind, hfirst]

/-- An offset behind the end of a text has the place of the end. -/
theorem placeIn_min (table : LineTable) (text : String) (offset : Nat) :
    table.placeIn text (min offset text.utf8ByteSize) = table.placeIn text offset := by
  have hlength : (utf8 text.toList).length = text.utf8ByteSize := by
    rw [length_utf8, utf8Length_toList]
  simp only [placeIn, hlength, Nat.min_assoc, Nat.min_self]

end LineTable

namespace Source

/-- Each offset of a source with fewer bytes than there are numbers for lines and columns is located
at its place, counted along the text up to the offset or else the end. So an offset inside a
character is located like the one right behind the character, and one behind the end like the
end. -/
theorem locate_isAt {source : Source} (hsize : source.text.utf8ByteSize < UInt32.size - 1) :
    (∀ offset, ∃ place, source.locate offset = .ok ⟨place, source.file⟩ ∧
      place.IsAt source.text (min offset source.text.utf8ByteSize)) ∧
    (∀ front c back offset, source.text.toList = front ++ c :: back →
      utf8Length front < offset → offset ≤ utf8Length (front ++ [c]) →
        source.locate offset = source.locate (utf8Length (front ++ [c]))) ∧
    ∀ offset, source.text.utf8ByteSize ≤ offset →
      source.locate offset = source.locate source.text.utf8ByteSize := by
  have hlength : (utf8 source.text.toList).length = source.text.utf8ByteSize := by
    rw [length_utf8, utf8Length_toList]
  refine ⟨?_, ?_, ?_⟩
  · intro offset
    have hsplit := (List.take_append_drop offset (utf8 source.text.toList)).symm
    obtain ⟨place, hplace, hisAt⟩ := LineTable.placeIn_isAt hsplit hsize
    rw [List.length_take, hlength] at hplace hisAt
    rw [LineTable.placeIn_min] at hplace
    refine ⟨place, ?_, hisAt⟩
    rw [locate, lineTable, hplace]
    rfl
  · intro front c back offset htext hlow hhigh
    unfold locate lineTable
    rw [LineTable.placeIn_inside htext hsize hlow hhigh]
  · intro offset hoffset
    unfold locate
    rw [← LineTable.placeIn_min, Nat.min_eq_right hoffset]

/-- An offset inside the last character of a source and one behind its end. -/
theorem locate_isAt_two :
    "é\nab€".utf8ByteSize < UInt32.size - 1 ∧
      (∃ place, locate ⟨"a.txt", "é\nab€"⟩ 6 = .ok ⟨place, "a.txt"⟩ ∧ place.IsAt "é\nab€" 6) ∧
      locate ⟨"a.txt", "é\nab€"⟩ 6 = locate ⟨"a.txt", "é\nab€"⟩ 8 ∧
      locate ⟨"a.txt", "é\nab€"⟩ 9 = locate ⟨"a.txt", "é\nab€"⟩ 8 := by
  have hsize : "é\nab€".utf8ByteSize < UInt32.size - 1 := by decide
  obtain ⟨hplaces, hinside, hbehind⟩ := @locate_isAt ⟨"a.txt", "é\nab€"⟩ hsize
  have hlast := hinside ['é', '\n', 'a', 'b'] '€' [] 6 (by decide) (by decide) (by decide)
  exact ⟨hsize, hplaces 6, hlast, hbehind 9 (by decide)⟩

end Source

end SourceDiagnostics
