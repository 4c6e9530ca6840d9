import SourceDiagnostics.Proofs.Acceptance

/-!
# Reading in rounds

Words are read in rounds. A round takes one word and the blanks behind it, whatever becomes of the
word, so each round begins in front of a word and there are as many of them as words. Digits are
asked for their value only where there are some: no digits at all would stand for zero.
-/

namespace SourceDiagnostics.Numbers

open Text

/-- The reader of a text once the blanks in front are skipped and so many rounds are over. -/
def readerAfter (text : String) : Nat → Reader
  | 0 => (Reader.ofText text).skipBlanks.2
  | rounds + 1 => (readWord (readerAfter text rounds)).2

/-- A round over a word takes the characters of the word, which are the next to come, and all blanks
behind them, and moves on. -/
structure TakesWord (word : Word) (before after : Reader) : Prop where
  offset : word.offset = before.position
  taken : ∃ blanks, before.rest = word.chars ++ blanks ++ after.rest ∧
    (∀ c ∈ blanks, isBlank c = true) ∧ (∀ c ∈ after.rest.head?, isBlank c = false) ∧
    after.position = before.position + utf8Length word.chars + utf8Length blanks
  forward : before.position < after.position

/-! ### One round -/

/-- A round begins at the end or in front of a character that is no blank. -/
theorem head?_rest_readerAfter (text : String) (rounds : Nat) :
    ∀ c ∈ (readerAfter text rounds).rest.head?, isBlank c = false := by
  cases rounds with
  | zero => exact head?_rest_skipBlanks (Reader.ofText text)
  | succ rounds => exact head?_rest_readWord (readerAfter text rounds)

/-- At the end a round takes nothing. -/
theorem atEnd_readWord {reader : Reader} (h : reader.atEnd = true) :
    (readWord reader).2.atEnd = true := by
  have hrest : reader.rest = [] := List.isEmpty_iff.mp h
  rw [readWord_eq, Reader.atEnd, Reader.rest_skipBlanks, Reader.rest_skipWord, hrest]
  rfl

/-- Reading a word takes it. -/
theorem takesWord_readWord {reader : Reader} (hend : reader.atEnd = false)
    (h : ∀ c ∈ reader.rest.head?, isBlank c = false) :
    TakesWord ⟨reader.position, reader.rest.takeWhile (!isBlank ·)⟩ reader
      (readWord reader).2 := by
  have hword := List.takeWhile_append_dropWhile (p := (!isBlank ·)) (l := reader.rest)
  have hblanks := List.takeWhile_append_dropWhile (p := isBlank) (l := reader.skipWord.rest)
  have hne : reader.rest.takeWhile (!isBlank ·) ≠ [] := by
    obtain ⟨c, rest, hr, hblank⟩ := exists_rest_eq_cons hend h
    simp [hr, hblank]
  have hpos := utf8Length_pos hne
  rw [readWord_eq]
  refine ⟨rfl, ⟨_, ?_, List.all_eq_true.mp List.all_takeWhile, head?_rest_skipBlanks _, rfl⟩, ?_⟩
  · rw [List.append_assoc, Reader.rest_skipBlanks, hblanks, Reader.rest_skipWord, hword]
  · change reader.position < reader.position + utf8Length _ + utf8Length _
    omega

/-! ### All rounds -/

/-- What is to come after some rounds are the words of the text but for the first ones. -/
theorem wordsFrom_readerAfter (text : String) (rounds : Nat) :
    wordsFrom (readerAfter text rounds).position (readerAfter text rounds).rest =
      (words text).drop rounds := by
  induction rounds with
  | zero => exact wordsFrom_dropWhile_isBlank 0 text.toList
  | succ rounds ih =>
    rw [readerAfter, ← List.tail_drop, ← ih]
    cases hend : (readerAfter text rounds).atEnd with
    | false => rw [wordsFrom_eq_cons hend (head?_rest_readerAfter text rounds), List.tail_cons]
    | true =>
      rw [List.isEmpty_iff.mp (atEnd_readWord hend), List.isEmpty_iff.mp hend, wordsFrom_nil,
        wordsFrom_nil, List.tail_nil]

/-- The rounds come to the end after as many of them as there are words. -/
theorem atEnd_readerAfter_iff (text : String) (rounds : Nat) :
    (readerAfter text rounds).atEnd = true ↔ (words text).length ≤ rounds := by
  rw [← List.drop_eq_nil_iff, ← wordsFrom_readerAfter]
  cases hend : (readerAfter text rounds).atEnd with
  | false => simp [wordsFrom_eq_cons hend (head?_rest_readerAfter text rounds)]
  | true => simp [List.isEmpty_iff.mp hend, wordsFrom_nil]

/-- A round for which there is a word reads that word. -/
theorem of_getElem?_words {text : String} {rounds : Nat} {word : Word}
    (h : (words text)[rounds]? = some word) :
    (readerAfter text rounds).atEnd = false ∧
      word = ⟨(readerAfter text rounds).position,
        (readerAfter text rounds).rest.takeWhile (!isBlank ·)⟩ := by
  have hend : (readerAfter text rounds).atEnd = false := by
    obtain ⟨hlt, -⟩ := List.getElem?_eq_some_iff.mp h
    rw [← Bool.not_eq_true, atEnd_readerAfter_iff]
    omega
  refine ⟨hend, ?_⟩
  rw [← List.head?_drop, ← wordsFrom_readerAfter,
    wordsFrom_eq_cons hend (head?_rest_readerAfter text rounds), List.head?_cons] at h
  exact (Option.some.inj h).symm

/-- The rounds of a text have the outcomes of its words. -/
theorem map_readWord_readerAfter (text : String) :
    ((List.range (words text).length).map fun rounds ↦ (readWord (readerAfter text rounds)).1) =
      (words text).map wordOutcome := by
  apply List.ext_getElem
  · simp
  · intro rounds hrounds hwords
    rw [List.length_map] at hwords
    have hword := (of_getElem?_words (List.getElem?_eq_getElem hwords)).2
    simp only [List.getElem_map, List.getElem_range]
    rw [hword, readWord_eq]

/-! ### Digits that are asked for their value -/

/-- Reading a number at a reader asks some digits for their value: they are the digits to come, and
what follows them is a blank or the end. -/
def AsksValue (reader : Reader) (digits : List Char) : Prop :=
  (reader.takeWhile Char.isDigit).1 = digits ∧
    (reader.takeWhile Char.isDigit).2.peek?.filter (!isBlank ·) = none

/-- What becomes of a word is decided by the value of digits that are asked for it, or else no
digits are asked and the word fails. -/
theorem fst_readNumber_cases (reader : Reader) :
    (∃ digits, AsksValue reader digits ∧
      (readNumber reader).1 =
        (value? digits).elim (.error (.payload reader.position (.tooLarge digits.length))) .ok) ∨
    (∀ digits, ¬AsksValue reader digits) ∧ (readNumber reader).1.isOk = false := by
  cases hstop : (reader.takeWhile Char.isDigit).2.peek?.filter (!isBlank ·) with
  | none =>
    left
    refine ⟨_, ⟨rfl, hstop⟩, ?_⟩
    simp only [readNumber, outcome, hstop]
    cases value? (reader.takeWhile Char.isDigit).1 <;> rfl
  | some found =>
    right
    constructor
    · rintro digits ⟨-, hnone⟩
      rw [hstop] at hnone
      cases hnone
    · simp only [readNumber, outcome, hstop]
      split <;> rfl

/-- In front of a character that is no blank, only digits are asked for their value that there
are. -/
theorem AsksValue.ne_nil {reader : Reader} {digits : List Char} (h : AsksValue reader digits)
    (hend : reader.atEnd = false) (hhead : ∀ c ∈ reader.rest.head?, isBlank c = false) :
    digits ≠ [] := by
  obtain ⟨rfl, hstop⟩ := h
  obtain ⟨c, rest, hr, hblank⟩ := exists_rest_eq_cons hend hhead
  cases hdigit : c.isDigit with
  | true => simp [hr, hdigit]
  | false => simp [Reader.peek?, Option.filter_some, hr, hdigit, hblank] at hstop

/-- No digits at all would stand for zero. -/
example : value? [] = some 0 := rfl

/-- The bytes of digits are those from the one of 0 to the one of 9. -/
theorem bounds_of_mem_utf8 {digits : List Char} (h : ∀ c ∈ digits, c.isDigit = true) :
    ∀ byte ∈ utf8 digits, '0'.toNat ≤ byte.toNat ∧ byte.toNat ≤ '9'.toNat := by
  intro byte hbyte
  rw [utf8_digits h] at hbyte
  obtain ⟨c, hc, rfl⟩ := List.mem_map.mp hbyte
  have hbounds := Char.isDigit_iff_toNat.mp (h c hc)
  have hvalue : (UInt8.ofNat c.toNat).toNat = c.toNat :=
    UInt8.toNat_ofNat_of_lt' (Nat.lt_of_le_of_lt hbounds.2 (by decide))
  rwa [hvalue]

/-! ### Numbers and failures -/

/-- Each outcome is a number or a failure. -/
theorem length_ofOutcomes (outcomes : List Outcome) :
    (Reading.ofOutcomes outcomes).numbers.length + (Reading.ofOutcomes outcomes).failures.length =
      outcomes.length := by
  induction outcomes with
  | nil => rfl
  | cons outcome outcomes ih =>
    rw [List.length_cons, ← ih]
    cases outcome with
    | ok number => exact Nat.succ_add _ _
    | error failure => exact Nat.add_succ _ _

/-- Digits stand for zero exactly if all of them are zeros. -/
theorem ofDigitChars_eq_zero_iff {digits : List Char} (h : ∀ c ∈ digits, c.isDigit = true) :
    Nat.ofDigitChars 10 digits 0 = 0 ↔ ∀ c ∈ digits, c = '0' := by
  induction digits with
  | nil => simp
  | cons c digits ih =>
    rw [List.forall_mem_cons] at h
    rw [Nat.ofDigitChars_cons, Nat.mul_zero, Nat.zero_add, List.forall_mem_cons, ← ih h.2]
    have hle := (Char.isDigit_iff_toNat.mp h.1).1
    constructor
    · intro hzero
      have hvalue := le_ofDigitChars digits (c.toNat - '0'.toNat)
      have hc : c = '0' := Char.toNat_inj.mp (by omega)
      rw [hc, Nat.sub_self] at hzero
      exact ⟨hc, hzero⟩
    · rintro ⟨rfl, hzero⟩
      rwa [Nat.sub_self]

/-- A word is the number zero exactly if all its characters are zeros. -/
theorem wordNumber?_eq_zero_iff {word : Word} (hne : word.chars ≠ []) :
    wordNumber? word = some 0 ↔ ∀ c ∈ word.chars, c = '0' := by
  rw [wordNumber?_eq_some_iff hne, isNumber_iff, and_iff_right hne]
  constructor
  · rintro ⟨hdigits, hzero⟩
    exact (ofDigitChars_eq_zero_iff hdigits).mp hzero
  · intro h
    have hdigits : ∀ c ∈ word.chars, c.isDigit = true := by
      intro c hc
      rw [h c hc]
      rfl
    exact ⟨hdigits, (ofDigitChars_eq_zero_iff hdigits).mpr h⟩

/-- The numbers of a text have a zero for each word of zeros and no other. -/
theorem count_zero_numbers (text : String) :
    (read text).numbers.count 0 = (words text).countP fun word ↦ word.chars.all (· == '0') := by
  rw [numbers_read, List.count_filterMap]
  apply List.countP_congr
  intro word hword
  obtain ⟨-, -, -, -, hne, -⟩ := mem_wordsFrom_iff.mp hword
  rw [beq_iff_eq, wordNumber?_eq_zero_iff hne, List.all_eq_true]
  simp only [beq_iff_eq]

/-! ### The whole text -/

/-- Where a text is not at its end, a round begins in front of a character that is no blank and
takes the word there with the blanks behind it, so the words are taken one by one in their order and
the rounds are over after as many of them as there are words. Digits are asked for their value only
where there are some, each byte of them can have the byte of 0 taken away, and where none are asked
the word fails. The outcomes of the rounds are the numbers and the failures of the text, which are
as many as the words, and a zero among the numbers stands for a word of zeros. A text without words
has one failure. -/
theorem read_goesByRounds (text : String) :
    (∀ rounds, ∀ c ∈ (readerAfter text rounds).rest.head?, isBlank c = false) ∧
      (∀ rounds, (readerAfter text rounds).atEnd = true ↔ (words text).length ≤ rounds) ∧
      (∀ rounds word, (words text)[rounds]? = some word →
        TakesWord word (readerAfter text rounds) (readerAfter text (rounds + 1)) ∧
        (∀ digits, AsksValue (readerAfter text rounds) digits →
          digits ≠ [] ∧ ∀ byte ∈ utf8 digits, '0'.toNat ≤ byte.toNat) ∧
        ((∃ digits, AsksValue (readerAfter text rounds) digits ∧
          (readWord (readerAfter text rounds)).1 =
            (value? digits).elim (.error (.payload word.offset (.tooLarge digits.length))) .ok) ∨
        (∀ digits, ¬AsksValue (readerAfter text rounds) digits) ∧
          (readWord (readerAfter text rounds)).1.isOk = false)) ∧
      (∀ word, word ∈ words text ↔ word.IsRun 0 text.toList) ∧
      (words text).Pairwise (·.offset < ·.offset) ∧
      read text =
        (if words text = [] then ⟨[], [missing text.utf8ByteSize .endOfInput]⟩
        else .ofOutcomes ((List.range (words text).length).map fun rounds ↦
          (readWord (readerAfter text rounds)).1)) ∧
      (read text).numbers.length + (read text).failures.length = max 1 (words text).length ∧
      (words text = [] → (read text).failures.length = 1) ∧
      (read text).numbers.count 0 =
        (words text).countP fun word ↦ word.chars.all (· == '0') := by
  have hread := read_eq text
  rw [← map_readWord_readerAfter] at hread
  refine ⟨head?_rest_readerAfter text, atEnd_readerAfter_iff text, ?_,
    fun _ ↦ mem_wordsFrom_iff, pairwise_offset_words text, hread, ?_, ?_,
    count_zero_numbers text⟩
  · intro rounds word hword
    obtain ⟨hend, rfl⟩ := of_getElem?_words hword
    have hhead := head?_rest_readerAfter text rounds
    refine ⟨takesWord_readWord hend hhead, ?_, fst_readNumber_cases _⟩
    intro digits hasks
    refine ⟨hasks.ne_nil hend hhead, ?_⟩
    have hdigits : ∀ c ∈ digits, c.isDigit = true := by
      rw [← hasks.1]
      exact List.all_eq_true.mp List.all_takeWhile
    exact fun byte hbyte ↦ (bounds_of_mem_utf8 hdigits byte hbyte).1
  · rw [read_eq]
    split
    · next hnil => rw [hnil]; rfl
    · next hne =>
      have hpos := List.length_pos_iff.mpr hne
      rw [length_ofOutcomes, List.length_map]
      omega
  · intro hnil
    rw [hread, if_pos hnil]
    rfl

/-- Two rounds, over a word of zeros and one that is no number. -/
theorem read_goesByRounds_two :
    (words "\t00 x1")[0]? = some ⟨1, ['0', '0']⟩ ∧ (words "\t00 x1")[1]? = some ⟨4, ['x', '1']⟩ ∧
      AsksValue (readerAfter "\t00 x1" 0) ['0', '0'] ∧
      TakesWord ⟨1, ['0', '0']⟩ (readerAfter "\t00 x1" 0) (readerAfter "\t00 x1" 1) ∧
      TakesWord ⟨4, ['x', '1']⟩ (readerAfter "\t00 x1" 1) (readerAfter "\t00 x1" 2) ∧
      (readerAfter "\t00 x1" 2).atEnd = true ∧ (read "\t00 x1").numbers.count 0 = 1 := by
  have hfirst : (words "\t00 x1")[0]? = some ⟨1, ['0', '0']⟩ := by decide +kernel
  have hsecond : (words "\t00 x1")[1]? = some ⟨4, ['x', '1']⟩ := by decide +kernel
  have hasks : AsksValue (readerAfter "\t00 x1" 0) ['0', '0'] := ⟨by decide, by decide⟩
  obtain ⟨-, hend, hrounds, -, -, -, -, -, hzeros⟩ := read_goesByRounds "\t00 x1"
  refine ⟨hfirst, hsecond, hasks, (hrounds 0 _ hfirst).1, (hrounds 1 _ hsecond).1,
    (hend 2).mpr ?_, hzeros.trans ?_⟩
  · decide +kernel
  · decide +kernel

end SourceDiagnostics.Numbers
