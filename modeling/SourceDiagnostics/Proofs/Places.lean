import Mathlib.Data.List.DropRight
import SourceDiagnostics.Proofs.Utf8
import SourceDiagnostics.Source

/-!
# Where an offset lies

The line of an offset is one more than the line feeds before it, its column one more than the
characters between the last of these and the offset. The table of a text finds both by halving,
and counts bytes. It is shown to agree with counting along the text.
-/

namespace SourceDiagnostics

namespace Text

/-- The characters behind the last line feed. -/
def lastLine (chars : List Char) : List Char := chars.rtakeWhile (· != '\n')

/-- The bytes behind the last line feed. -/
def lastLineBytes (bytes : List UInt8) : List UInt8 := bytes.rtakeWhile (· != 0x0A)

/-- What all stands behind the last stop belongs to what is taken from the end. -/
theorem rtakeWhile_append_of_pos {α : Type} {p : α → Bool} {front back : List α}
    (h : ∀ a ∈ back, p a = true) :
    (front ++ back).rtakeWhile p = front.rtakeWhile p ++ back := by
  rw [List.rtakeWhile, List.reverse_append, List.takeWhile_append_of_pos (by simpa using h),
    List.reverse_append, List.reverse_reverse, List.rtakeWhile]

/-! ### Counting among bytes -/

/-- No byte of a line feed is among bytes that continue characters. -/
theorem lineFeed_not_mem_tail {tail : List UInt8}
    (h : ∀ byte ∈ tail, isContinuation byte = true) : (0x0A : UInt8) ∉ tail := by
  intro hm
  have := h _ hm
  revert this
  decide

/-- The bytes of a character hold the byte of a line feed once or not at all. -/
theorem count_utf8EncodeChar (c : Char) :
    (String.utf8EncodeChar c).count 0x0A = if c = '\n' then 1 else 0 := by
  obtain ⟨lead, tail, he, -, htail, hlead⟩ := utf8EncodeChar_eq_cons c
  rw [he, List.count_cons, List.count_eq_zero.mpr (lineFeed_not_mem_tail htail), Nat.zero_add]
  simp only [beq_iff_eq, hlead]

/-- Line feeds can be counted among the bytes. -/
theorem count_utf8 (chars : List Char) : (utf8 chars).count 0x0A = chars.count '\n' := by
  induction chars with
  | nil => rfl
  | cons c chars ih =>
    rw [utf8_cons, List.count_append, ih, count_utf8EncodeChar, List.count_cons, Nat.add_comm]
    simp only [beq_iff_eq]

/-- The bytes behind the last line feed are those of the characters behind it. -/
theorem lastLineBytes_utf8 (chars : List Char) :
    lastLineBytes (utf8 chars) = utf8 (lastLine chars) := by
  induction chars using List.reverseRecOn with
  | nil => rfl
  | append_singleton chars c ih =>
    rw [utf8_append, lastLineBytes, lastLine] at *
    by_cases hc : c = '\n'
    · subst hc
      rw [List.rtakeWhile_concat_neg _ _ _ (by simp)]
      exact List.rtakeWhile_concat_neg _ _ _ (by simp)
    · have hne : ∀ byte ∈ utf8 [c], (byte != 0x0A) = true := by
        have hcount := count_utf8 [c]
        rw [List.count_singleton, if_neg (by simpa using hc), List.count_eq_zero] at hcount
        intro byte hb
        rw [bne_iff_ne]
        rintro rfl
        exact hcount hb
      rw [rtakeWhile_append_of_pos hne, ih, List.rtakeWhile_concat_pos _ _ _ (by simpa using hc),
        utf8_append]

end Text

namespace LineTable

open Text

/-- As many characters begin among the bytes as there are. -/
theorem beginnings_utf8 (chars : List Char) : beginnings (utf8 chars) = chars.length := by
  induction chars with
  | nil => rfl
  | cons c chars ih =>
    obtain ⟨lead, tail, he, hlead, htail, -⟩ := utf8EncodeChar_eq_cons c
    have hzero : tail.countP (!isContinuation ·) = 0 :=
      List.countP_eq_zero.mpr fun byte hb ↦ by simp [htail byte hb]
    rw [beginnings] at ih ⊢
    rw [utf8_cons, he, List.countP_append, List.countP_cons_of_pos (by simp [hlead]), hzero, ih,
      List.length_cons, Nat.zero_add, Nat.add_comm]

/-! ### Finding a line by halving -/

private theorem getElem_mem_behind {starts : Array Nat} {before behind : List Nat} {i : Nat}
    (hsplit : starts.toList = before ++ behind) (h : i < starts.size) (hi : before.length ≤ i) :
    starts[i] ∈ behind := by
  have hlen := congrArg List.length hsplit
  rw [Array.length_toList, List.length_append] at hlen
  rw [← Array.getElem_toList, List.getElem_of_eq hsplit (by simpa using h),
    List.getElem_append_right hi]
  exact List.getElem_mem _

private theorem getElem_mem_before {starts : Array Nat} {before behind : List Nat} {i : Nat}
    (hsplit : starts.toList = before ++ behind) (h : i < starts.size) (hi : i < before.length) :
    starts[i] ∈ before := by
  rw [← Array.getElem_toList, List.getElem_of_eq hsplit (by simpa using h),
    List.getElem_append_left hi]
  exact List.getElem_mem _

/-- Halving finds where the starts up to an offset end and those behind it begin. -/
theorem countWithin_eq {starts : Array Nat} {before behind : List Nat} {offset low high : Nat}
    (hsplit : starts.toList = before ++ behind) (hbefore : ∀ start ∈ before, start ≤ offset)
    (hbehind : ∀ start ∈ behind, offset < start) (hlow : low ≤ before.length)
    (hhigh : before.length ≤ high) (hsize : high ≤ starts.size) :
    countWithin starts offset low high = before.length := by
  -- The number sought stays between the two ends of what is halved.
  fun_induction countWithin starts offset low high with
  | case1 low high hlt middle hle ih =>
    have hmiddle : middle < starts.size := by omega
    rw [Array.getD_eq_getD_getElem?, Array.getElem?_eq_getElem hmiddle, Option.getD_some] at hle
    apply ih _ hhigh hsize
    apply Nat.lt_of_not_le
    intro hge
    have := hbehind _ (getElem_mem_behind hsplit hmiddle hge)
    omega
  | case2 low high hlt middle hgt ih =>
    have hmiddle : middle < starts.size := by omega
    rw [Array.getD_eq_getD_getElem?, Array.getElem?_eq_getElem hmiddle, Option.getD_some] at hgt
    apply ih hlow _ (by omega)
    apply Nat.le_of_not_lt
    intro hge
    have := hbefore _ (getElem_mem_before hsplit hmiddle hge)
    omega
  | case3 low high hge => omega

/-! ### Where the lines begin -/

theorem startsBehind_append (offset : Nat) (front back : List UInt8) :
    startsBehind offset (front ++ back) =
      startsBehind offset front ++ startsBehind (offset + front.length) back := by
  induction front generalizing offset with
  | nil => rfl
  | cons byte front ih =>
    rw [List.cons_append, startsBehind, startsBehind, ih, List.length_cons,
      Nat.add_comm front.length 1, ← Nat.add_assoc]
    split <;> rfl

/-- Lines begin behind the first byte and not past the last one. -/
theorem bounds_of_mem_startsBehind {offset start : Nat} {bytes : List UInt8}
    (h : start ∈ startsBehind offset bytes) : offset < start ∧ start ≤ offset + bytes.length := by
  induction bytes generalizing offset with
  | nil => exact absurd h List.not_mem_nil
  | cons byte bytes ih =>
    rw [startsBehind] at h
    rw [List.length_cons]
    split at h
    · rcases List.mem_cons.mp h with rfl | h
      · omega
      · have := ih h
        omega
    · have := ih h
      omega

/-- The last line that begins among some bytes begins where the bytes behind their last line feed
do. -/
theorem getElem?_count_startsBehind (bytes : List UInt8) :
    (0 :: startsBehind 0 bytes)[bytes.count 0x0A]? =
      some (bytes.length - (lastLineBytes bytes).length) := by
  induction bytes using List.reverseRecOn with
  | nil => rfl
  | append_singleton bytes byte ih =>
    rw [startsBehind_append, List.count_append, List.count_singleton, lastLineBytes]
    rw [lastLineBytes] at ih
    by_cases hb : byte = 0x0A
    · rw [if_pos (by simpa using hb), List.rtakeWhile_concat_neg _ _ _ (by simpa using hb),
        startsBehind, if_pos hb, List.getElem?_cons_succ, ← length_startsBehind 0,
        List.getElem?_append_right (Nat.le_refl _), Nat.sub_self, List.getElem?_cons_zero,
        List.length_append, List.length_singleton, Nat.zero_add, List.length_nil, Nat.sub_zero]
    · rw [if_neg (by simpa using hb), List.rtakeWhile_concat_pos _ _ _ (by simpa using hb),
        startsBehind, if_neg hb, startsBehind, List.append_nil, Nat.add_zero, ih,
        List.length_append, List.length_append, List.length_singleton, Nat.add_sub_add_right]

/-- The lines that begin at or before an offset are one more than the line feeds before it. -/
theorem countUpTo_ofText {text : String} {front back : List UInt8}
    (h : utf8 text.toList = front ++ back) :
    (ofText text).countUpTo front.length = 1 + front.count 0x0A := by
  have hsplit : (ofText text).starts.toList =
      (0 :: startsBehind 0 front) ++ startsBehind front.length back := by
    rw [ofText, h, startsBehind_append, Nat.zero_add]
    rfl
  have hlength : (0 :: startsBehind 0 front).length = 1 + front.count 0x0A := by
    rw [List.length_cons, length_startsBehind, Nat.add_comm]
  have hsize := congrArg List.length hsplit
  rw [Array.length_toList, List.length_append] at hsize
  rw [countUpTo, ← hlength]
  refine countWithin_eq hsplit ?_ ?_ (Nat.zero_le _) ?_ (Nat.le_refl _)
  · intro start hs
    rcases List.mem_cons.mp hs with rfl | hs
    · exact Nat.zero_le _
    · have := bounds_of_mem_startsBehind hs
      omega
  · exact fun start hs ↦ (bounds_of_mem_startsBehind hs).1
  · rw [size]
    omega

/-- With fewer lines than there are numbers, the line of an offset is the number of those that
begin at or before it. -/
theorem lineAt_eq_ok_iff {table : LineTable} {offset : Nat} {line : UInt32}
    (hpos : 0 < table.countUpTo offset) (hlt : table.countUpTo offset < UInt32.size) :
    table.lineAt offset = .ok line ↔ table.countUpTo offset = line.toNat := by
  have hnarrow : (Numbering.narrow (table.countUpTo offset - 1)).toNat =
      table.countUpTo offset - 1 := by
    rw [Numbering.toNat_narrow, if_pos (by omega)]
  have hone : (1 : UInt32).toNat = 1 := rfl
  have hne : Numbering.narrow (table.countUpTo offset - 1) ≠ Numbering.greatest := by
    intro he
    have hgreatest : Numbering.greatest.toNat = UInt32.size - 1 := rfl
    rw [he] at hnarrow
    omega
  rw [lineAt, Numbering.next?, if_neg hne]
  simp only [Except.ok.injEq]
  rw [← UInt32.toNat_inj, UInt32.toNat_add, hnarrow, hone, Nat.sub_add_cancel hpos,
    Nat.mod_eq_of_lt hlt]

/-- The line of an offset is counted from one, by the line feeds before it. -/
theorem lineAt_ofText {text : String} {front back : List UInt8}
    (h : utf8 text.toList = front ++ back) (hcount : front.count 0x0A < UInt32.size - 1) :
    ∃ line, (ofText text).lineAt front.length = .ok line ∧
      line.toNat = 1 + front.count 0x0A := by
  have hlines := countUpTo_ofText h
  have hnumber : (UInt32.ofNat (1 + front.count 0x0A)).toNat = 1 + front.count 0x0A :=
    UInt32.toNat_ofNat_of_lt' (by omega)
  refine ⟨UInt32.ofNat (1 + front.count 0x0A), ?_, hnumber⟩
  rw [lineAt_eq_ok_iff (by omega) (by omega), hlines, hnumber]

/-- The line begins where the bytes behind the last line feed do. -/
theorem start?_ofText {text : String} {front back : List UInt8} {line : UInt32}
    (h : utf8 text.toList = front ++ back) (hline : line.toNat = 1 + front.count 0x0A) :
    (ofText text).start? line = some (front.length - (lastLineBytes front).length) := by
  have hne : line ≠ 0 := by
    rintro rfl
    rw [UInt32.toNat_zero] at hline
    omega
  have hlength : front.count 0x0A < (0 :: startsBehind 0 front).length := by
    rw [List.length_cons, length_startsBehind]
    omega
  rw [start?, if_neg hne, hline, Nat.add_sub_cancel_left, ofText, h, startsBehind_append,
    List.getElem?_toArray, ← List.cons_append, List.getElem?_append_left hlength,
    getElem?_count_startsBehind]

theorem cut_append (front middle back : List UInt8) :
    cut (front ++ middle ++ back) front.length (front ++ middle).length = .ok middle := by
  rw [cut, if_pos (by simp only [List.length_append]; omega), List.append_assoc,
    List.drop_left, List.length_append, Nat.add_sub_cancel_left, List.take_left]

/-- An offset is placed by counting the line feeds before it and the characters behind the last
of them. -/
theorem placeIn_ofText {text : String} {front back : List UInt8}
    (h : utf8 text.toList = front ++ back) (hcount : front.count 0x0A < UInt32.size - 1) :
    ∃ line, (ofText text).placeIn text front.length =
        .ok ⟨line, Numbering.nextOrGreatest (Numbering.narrow (beginnings (lastLineBytes front)))⟩ ∧
      line.toNat = 1 + front.count 0x0A := by
  obtain ⟨line, hlineAt, hline⟩ := lineAt_ofText h hcount
  refine ⟨line, ?_, hline⟩
  have hsplit : front.rdropWhile (· != 0x0A) ++ lastLineBytes front = front :=
    List.rdropWhile_append_rtakeWhile
  have hlength := congrArg List.length hsplit
  rw [List.length_append] at hlength
  have hcut := cut_append (front.rdropWhile (· != 0x0A)) (lastLineBytes front) back
  rw [hsplit] at hcut
  have hstart : front.length - (lastLineBytes front).length =
      (front.rdropWhile (· != 0x0A)).length := by omega
  have hstop : min front.length (front ++ back).length = front.length := by
    rw [List.length_append]
    omega
  rw [placeIn, h, hstop, hlineAt]
  simp only [bind, Except.bind, start?_ofText h hline, hstart, Option.getD_some, hcut, pure,
    Except.pure]

end LineTable

/-! ### Places behind characters -/

/-- The place right behind some characters: its line is counted by their line feeds, its column
by the characters behind the last of these. -/
structure Place.IsBehind (place : Place) (front : List Char) : Prop where
  line : place.line.toNat = 1 + front.count '\n'
  column : place.column.toNat = 1 + (Text.lastLine front).length

namespace Text

theorem length_lastLine_le (chars : List Char) : (lastLine chars).length ≤ chars.length :=
  (List.rtakeWhile_suffix _ _).length_le

theorem length_le_utf8Length (chars : List Char) : chars.length ≤ utf8Length chars := by
  induction chars with
  | nil => exact Nat.le_refl 0
  | cons c chars ih =>
    have := c.utf8Size_pos
    rw [List.length_cons, utf8Length_cons]
    omega

/-- Without a line feed among them, characters stand on the same line as those before them. -/
theorem lastLine_append_of_not_mem {front back : List Char} (h : '\n' ∉ back) :
    lastLine (front ++ back) = lastLine front ++ back := by
  apply rtakeWhile_append_of_pos
  intro c hc
  rw [bne_iff_ne]
  rintro rfl
  exact h hc

theorem length_splitOn (chars : List Char) :
    (chars.splitOn '\n').length = 1 + chars.count '\n' := by
  induction chars with
  | nil => rfl
  | cons c chars ih =>
    rw [List.splitOn_cons_eq_if_modifyHead, List.count_cons]
    split
    · rw [List.length_cons, ih, Nat.add_assoc]
    · rw [List.length_modifyHead, ih, Nat.add_zero]

theorem getElem?_zero_splitOn (chars : List Char) :
    (chars.splitOn '\n')[0]? = some (chars.takeWhile (· != '\n')) := by
  induction chars with
  | nil => rfl
  | cons c chars ih =>
    rw [List.splitOn_cons_eq_if_modifyHead]
    split
    · next h => rw [List.takeWhile_cons_of_neg (by simpa using h), List.getElem?_cons_zero]
    · next h =>
      rw [List.takeWhile_cons_of_pos (by simpa using h), List.getElem?_modifyHead_zero, ih,
        Option.map_some]

/-- The line on which characters end goes on up to the next line feed. -/
theorem getElem?_count_splitOn (front back : List Char) :
    ((front ++ back).splitOn '\n')[front.count '\n']? =
      some (lastLine front ++ back.takeWhile (· != '\n')) := by
  induction front using List.reverseRecOn generalizing back with
  | nil => exact getElem?_zero_splitOn back
  | append_singleton front c ih =>
    rw [List.append_assoc, List.singleton_append, List.count_append, List.count_singleton]
    by_cases hc : c = '\n'
    · subst hc
      rw [List.splitOn_append_cons_self, if_pos (beq_self_eq_true _), Nat.add_comm,
        ← length_splitOn, List.getElem?_append_right (Nat.le_refl _), Nat.sub_self,
        getElem?_zero_splitOn, lastLine, List.rtakeWhile_concat_neg _ _ _ (by simp),
        List.nil_append]
    · rw [if_neg (by simpa using hc), Nat.add_zero, ih,
        List.takeWhile_cons_of_pos (by simpa using hc),
        lastLine_append_of_not_mem (by simpa using Ne.symm hc), List.append_assoc,
        List.singleton_append]

/-- The character at a place of a text whose lines end in line feeds. -/
def charAt? (chars : List Char) (place : Place) : Option Char :=
  ((chars.splitOn '\n')[place.line.toNat - 1]?).bind (·[place.column.toNat - 1]?)

/-- At the place behind some characters is the next one. -/
theorem charAt?_of_isBehind {front back : List Char} {c : Char} {place : Place}
    (h : place.IsBehind front) (hc : c ≠ '\n') :
    charAt? (front ++ c :: back) place = some c := by
  rw [charAt?, h.line, h.column, Nat.add_sub_cancel_left, Nat.add_sub_cancel_left,
    getElem?_count_splitOn, Option.bind_some, List.getElem?_append_right (Nat.le_refl _),
    Nat.sub_self, List.takeWhile_cons_of_pos (by simpa using hc), List.getElem?_cons_zero]

end Text

namespace Place

/-- Places move on with the characters before them. -/
theorem compare_of_isBehind {front more : List Char} {first second : Place}
    (hfirst : first.IsBehind front) (hsecond : second.IsBehind (front ++ more))
    (hmore : more ≠ []) : compare first second = .lt := by
  have hline := hsecond.line
  have hcolumn := hsecond.column
  rw [compare_def, Ordering.then_eq_lt, Std.compare_eq_lt, Std.compare_eq_lt,
    Std.compare_eq_iff_eq, UInt32.lt_iff_toNat_lt, UInt32.lt_iff_toNat_lt, ← UInt32.toNat_inj,
    hfirst.line, hfirst.column, hline, hcolumn, List.count_append]
  by_cases hfeed : '\n' ∈ more
  · left
    have := List.count_pos_iff.mpr hfeed
    omega
  · right
    have := List.length_pos_iff.mpr hmore
    rw [List.count_eq_zero.mpr hfeed, Text.lastLine_append_of_not_mem hfeed, List.length_append]
    omega

end Place

/-- The offset behind some characters of a source is located behind them, as long as the source
has fewer bytes than there are numbers for lines and columns. -/
theorem Source.locate_utf8Length {source : Source} {front back : List Char}
    (h : source.text.toList = front ++ back)
    (hsize : source.text.utf8ByteSize < UInt32.size - 1) :
    ∃ place, source.locate (Text.utf8Length front) = .ok ⟨place, source.file⟩ ∧
      place.IsBehind front := by
  have hbytes : Text.utf8 source.text.toList = Text.utf8 front ++ Text.utf8 back := by
    rw [h, Text.utf8_append]
  have hlength : Text.utf8Length front ≤ source.text.utf8ByteSize := by
    rw [← Text.utf8Length_toList, h, Text.utf8Length_append]
    omega
  have hcount : (Text.utf8 front).count 0x0A ≤ Text.utf8Length front := by
    rw [← Text.length_utf8]
    exact List.count_le_length
  have hcolumn : (Text.lastLine front).length ≤ Text.utf8Length front :=
    Nat.le_trans (Text.length_lastLine_le front) (Text.length_le_utf8Length front)
  obtain ⟨line, hplace, hline⟩ := LineTable.placeIn_ofText hbytes (by omega)
  rw [Text.length_utf8, Text.lastLineBytes_utf8, LineTable.beginnings_utf8] at hplace
  rw [Text.count_utf8] at hline
  refine ⟨⟨line, Numbering.nextOrGreatest (Numbering.narrow (Text.lastLine front).length)⟩,
    ?_, hline, ?_⟩
  · rw [locate, lineTable, hplace]
    rfl
  · rw [Numbering.toNat_nextOrGreatest, Numbering.toNat_narrow, if_pos (by omega), Nat.add_comm]
    omega

end SourceDiagnostics
