import SourceDiagnostics.Numbers.Reading
import SourceDiagnostics.Proofs.Words

/-!
# Reading word by word

What becomes of a text of numbers is told from its words alone: a word of digits stands for its
decimal value, if that fits, and any other word fails at its first character that is no digit.
The reader, which passes over the text once, comes to the same numbers and failures.
-/

namespace SourceDiagnostics.Numbers

open Text

/-- What becomes of a word, told from its characters. -/
def wordOutcome (word : Word) : Outcome :=
  match word.chars.takeWhile Char.isDigit, word.chars.dropWhile Char.isDigit with
  | digits, [] =>
    if Nat.ofDigitChars 10 digits 0 < UInt64.size then
      .ok (UInt64.ofNat (Nat.ofDigitChars 10 digits 0))
    else .error (.payload word.offset (.tooLarge word.chars.length))
  | [], found :: _ =>
    .error (.mismatch word.offset (some (.literal (String.singleton found))) [.label "digit"])
  | digits, found :: _ =>
    .error (.payload (word.offset + utf8Length digits) (.strayCharacter found))

/-- The number that a word is. -/
def wordNumber? (word : Word) : Option UInt64 :=
  match wordOutcome word with
  | .ok number => some number
  | .error _ => none

/-- The failure of a word that is no number. -/
def wordFailure? (word : Word) : Option (Failure Problem) :=
  match wordOutcome word with
  | .ok _ => none
  | .error failure => some failure

/-! ### The value of digits -/

/-- Further digits make a value no less. -/
theorem le_ofDigitChars (digits : List Char) (n : Nat) :
    n ≤ Nat.ofDigitChars 10 digits n := by
  rw [Nat.ofDigitChars_eq_ofDigitChars_zero]
  have hpos : 0 < 10 ^ digits.length := Nat.pow_pos (by decide)
  have := Nat.le_mul_of_pos_left n hpos
  omega

private theorem foldlM_addDigit? (digits : List Char) (n : UInt64) :
    digits.foldlM addDigit? n =
      if Nat.ofDigitChars 10 digits n.toNat < UInt64.size then
        some (UInt64.ofNat (Nat.ofDigitChars 10 digits n.toNat))
      else none := by
  induction digits generalizing n with
  | nil => simp [n.toNat_lt_size]
  | cons digit digits ih =>
    rw [List.foldlM_cons, Nat.ofDigitChars_cons, addDigit?, Nat.mul_comm n.toNat 10]
    -- A value that has become too large stays so.
    split
    · next h =>
      have he : (UInt64.ofNat (10 * n.toNat + (digit.toNat - '0'.toNat))).toNat = _ :=
        UInt64.toNat_ofNat_of_lt' h
      simp only [Option.bind_eq_bind, Option.bind_some]
      rw [ih, he]
    · next h =>
      have hle := le_ofDigitChars digits (10 * n.toNat + (digit.toNat - '0'.toNat))
      rw [if_neg (by omega)]
      rfl

/-- Digits have a value exactly where their decimal value fits. -/
theorem value?_eq (digits : List Char) :
    value? digits =
      if Nat.ofDigitChars 10 digits 0 < UInt64.size then
        some (UInt64.ofNat (Nat.ofDigitChars 10 digits 0))
      else none :=
  foldlM_addDigit? digits 0

/-! ### One word -/

private theorem not_isBlank_of_mem_digits {chars : List Char} :
    ∀ c ∈ chars.takeWhile Char.isDigit, (!isBlank c) = true := by
  intro c hc
  have hd := List.all_eq_true.mp List.all_takeWhile c hc
  rw [isBlank_eq_false_of_isDigit hd]
  rfl

/-- A word is its digits and what follows them up to the next blank. -/
private theorem takeWhile_word (chars : List Char) :
    chars.takeWhile (!isBlank ·) =
      chars.takeWhile Char.isDigit ++ (chars.dropWhile Char.isDigit).takeWhile (!isBlank ·) := by
  have h : (chars.takeWhile Char.isDigit ++ chars.dropWhile Char.isDigit).takeWhile _ = _ :=
    List.takeWhile_append_of_pos not_isBlank_of_mem_digits
  rwa [List.takeWhile_append_dropWhile] at h

private theorem dropWhile_word (chars : List Char) :
    chars.dropWhile (!isBlank ·) =
      (chars.dropWhile Char.isDigit).dropWhile (!isBlank ·) := by
  have h : (chars.takeWhile Char.isDigit ++ chars.dropWhile Char.isDigit).dropWhile _ = _ :=
    List.dropWhile_append_of_pos not_isBlank_of_mem_digits
  rwa [List.takeWhile_append_dropWhile] at h

/-- Passing over a word does not depend on how many of its digits have been taken. -/
private theorem skipWord_takeWhile_isDigit (reader : Reader) :
    (reader.takeWhile Char.isDigit).2.skipWord = reader.skipWord := by
  simp only [Reader.skipWord, Reader.takeWhile, Reader.mk.injEq]
  refine ⟨?_, (dropWhile_word reader.rest).symm⟩
  rw [takeWhile_word reader.rest, utf8Length_append, Nat.add_assoc]

/-- A reader in front of a blank or at the end has no word to pass over. -/
private theorem skipWord_eq_self {reader : Reader}
    (h : reader.rest.takeWhile (!isBlank ·) = []) : reader.skipWord = reader := by
  have hsplit := List.takeWhile_append_dropWhile (p := (!isBlank ·)) (l := reader.rest)
  rw [h, List.nil_append] at hsplit
  obtain ⟨position, rest⟩ := reader
  simp only [Reader.skipWord, Reader.takeWhile, Reader.mk.injEq]
  refine ⟨?_, hsplit⟩
  rw [h, utf8Length_nil, Nat.add_zero]

/-! ### The kinds of words -/

/-- A word of digits is a number if its value fits, and too large otherwise. -/
theorem wordOutcome_digits {offset : Nat} {digits : List Char}
    (hd : ∀ c ∈ digits, c.isDigit = true) :
    wordOutcome ⟨offset, digits⟩ =
      if Nat.ofDigitChars 10 digits 0 < UInt64.size then
        .ok (UInt64.ofNat (Nat.ofDigitChars 10 digits 0))
      else .error (.payload offset (.tooLarge digits.length)) := by
  have htake : (digits ++ []).takeWhile Char.isDigit = digits :=
    takeWhile_append_of_stop hd (by simp)
  have hdrop : (digits ++ []).dropWhile Char.isDigit = [] :=
    dropWhile_append_of_stop hd (by simp)
  rw [List.append_nil] at htake hdrop
  simp only [wordOutcome, htake, hdrop]

/-- A word that begins with no digit fails there. -/
theorem wordOutcome_missing {offset : Nat} {found : Char} {tail : List Char}
    (hf : found.isDigit = false) :
    wordOutcome ⟨offset, found :: tail⟩ =
      .error (missing offset (.literal (.singleton found))) := by
  simp [wordOutcome, missing, hf]

/-- A word in which another character follows its digits fails at that character. -/
theorem wordOutcome_stray {offset : Nat} {digits tail : List Char} {found : Char}
    (hne : digits ≠ []) (hd : ∀ c ∈ digits, c.isDigit = true) (hf : found.isDigit = false) :
    wordOutcome ⟨offset, digits ++ found :: tail⟩ =
      .error (.payload (offset + utf8Length digits) (.strayCharacter found)) := by
  have ht : ∀ c ∈ (found :: tail).head?, c.isDigit = false := by
    rintro c ⟨⟩
    exact hf
  obtain ⟨d, ds, rfl⟩ := List.exists_cons_of_ne_nil hne
  simp only [wordOutcome, takeWhile_append_of_stop hd ht, dropWhile_append_of_stop hd ht]

/-! ### Reading agrees with the outcomes -/

private theorem head?_takeWhile_word (chars : List Char) :
    (chars.takeWhile (!isBlank ·)).head? = chars.head?.filter (!isBlank ·) := by
  cases chars with
  | nil => rfl
  | cons c rest => cases h : isBlank c <;> simp [h, Option.filter]

/-- The digits in front of a word and the reader behind them decide the outcome of the word. -/
private theorem outcome_eq_wordOutcome {start : Nat} {digits tail : List Char} {after : Reader}
    (hd : ∀ c ∈ digits, c.isDigit = true) (hp : after.position = start + utf8Length digits)
    (ht : after.rest.takeWhile (!isBlank ·) = tail) (hf : ∀ c ∈ tail.head?, c.isDigit = false) :
    outcome start digits after = wordOutcome ⟨start, digits ++ tail⟩ := by
  rw [outcome, Reader.peek?, ← head?_takeWhile_word, ht, hp]
  cases tail with
  | nil =>
    rw [List.append_nil, wordOutcome_digits hd, value?_eq, List.head?_nil]
    by_cases hv : Nat.ofDigitChars 10 digits 0 < UInt64.size
    · simp only [if_pos hv]
    · simp only [if_neg hv]
  | cons found tail =>
    have hfound : found.isDigit = false := hf found rfl
    cases digits with
    | nil =>
      rw [List.nil_append, wordOutcome_missing hfound]
      rfl
    | cons d ds =>
      rw [wordOutcome_stray (List.cons_ne_nil d ds) hd hfound]
      rfl

private theorem fst_readNumber (reader : Reader) :
    (readNumber reader).1 =
      wordOutcome ⟨reader.position, reader.rest.takeWhile (!isBlank ·)⟩ := by
  rw [takeWhile_word]
  refine outcome_eq_wordOutcome (List.all_eq_true.mp List.all_takeWhile) rfl rfl ?_
  intro c hc
  have hstop := List.head?_dropWhile_not Char.isDigit reader.rest
  rw [Option.mem_def, head?_takeWhile_word, Option.filter_eq_some_iff] at hc
  rw [hc.1] at hstop
  exact hstop

/-- Where digits are a number, a blank or the end follows them. -/
private theorem takeWhile_eq_nil_of_isOk {reader : Reader}
    (h : (readNumber reader).1.isOk = true) :
    (readNumber reader).2.rest.takeWhile (!isBlank ·) = [] := by
  rw [← List.head?_eq_none_iff, head?_takeWhile_word]
  simp only [readNumber, outcome, Reader.peek?] at h ⊢
  split at h
  · split at h <;> exact absurd h Bool.false_ne_true
  · next hn => exact hn

/-- A word that begins at the reader is read to its end, with the blanks behind it, whatever
becomes of it. -/
theorem readWord_eq (reader : Reader) :
    readWord reader =
      (wordOutcome ⟨reader.position, reader.rest.takeWhile (!isBlank ·)⟩,
        reader.skipWord.skipBlanks.2) := by
  have hskip : (readNumber reader).2.skipWord = reader.skipWord :=
    skipWord_takeWhile_isDigit reader
  simp only [readWord, Prod.mk.injEq]
  refine ⟨fst_readNumber reader, ?_⟩
  split
  · next hok => rw [← hskip, skipWord_eq_self (takeWhile_eq_nil_of_isOk hok)]
  · rw [hskip]

/-- No blank comes next once the blanks to come are skipped. -/
theorem head?_rest_skipBlanks (reader : Reader) :
    ∀ c ∈ reader.skipBlanks.2.rest.head?, isBlank c = false := by
  intro c hc
  have hn := List.head?_dropWhile_not isBlank reader.rest
  rw [Reader.rest_skipBlanks, Option.mem_def] at hc
  rwa [hc] at hn

/-- No blank comes next once a word is read. -/
theorem head?_rest_readWord (reader : Reader) :
    ∀ c ∈ (readWord reader).2.rest.head?, isBlank c = false := by
  rw [readWord_eq]
  exact head?_rest_skipBlanks reader.skipWord

/-- A reader that is neither at the end nor in front of a blank is in front of a word. -/
theorem exists_rest_eq_cons {reader : Reader} (hend : reader.atEnd = false)
    (h : ∀ c ∈ reader.rest.head?, isBlank c = false) :
    ∃ c rest, reader.rest = c :: rest ∧ isBlank c = false := by
  cases hr : reader.rest with
  | nil => simp [Reader.atEnd, hr] at hend
  | cons c rest => exact ⟨c, rest, rfl, h c (by rw [hr]; rfl)⟩

/-- The words to come are the one in front of the reader and those to come once it is read. -/
theorem wordsFrom_eq_cons {reader : Reader} (hend : reader.atEnd = false)
    (h : ∀ c ∈ reader.rest.head?, isBlank c = false) :
    wordsFrom reader.position reader.rest =
      ⟨reader.position, reader.rest.takeWhile (!isBlank ·)⟩ ::
        wordsFrom (readWord reader).2.position (readWord reader).2.rest := by
  obtain ⟨c, rest, hr, hb⟩ := exists_rest_eq_cons hend h
  -- The blanks behind the word hold no words, so the rest is read as if they were not skipped.
  have hblanks :
      wordsFrom (readWord reader).2.position (readWord reader).2.rest =
        wordsFrom reader.skipWord.position reader.skipWord.rest := by
    rw [readWord_eq]
    exact wordsFrom_dropWhile_isBlank _ _
  rw [hblanks]
  simp only [Reader.skipWord, Reader.takeWhile, hr]
  rw [wordsFrom_word hb, List.takeWhile_cons_of_pos (by simp [hb]),
    List.dropWhile_cons_of_pos (by simp [hb])]

/-- The words to come have the outcomes that their characters give them. -/
theorem readWords_eq (reader : Reader) (h : ∀ c ∈ reader.rest.head?, isBlank c = false) :
    readWords reader = (wordsFrom reader.position reader.rest).map wordOutcome := by
  fun_induction readWords reader with
  | case1 reader hend =>
    rw [List.isEmpty_iff.mp hend, wordsFrom_nil, List.map_nil]
  | case2 reader hend ih =>
    rw [ih (head?_rest_readWord reader), wordsFrom_eq_cons (by simpa using hend) h,
      List.map_cons, readWord_eq reader]

/-! ### Reading a text -/

private theorem numbers_ofOutcomes (words : List Word) :
    (Reading.ofOutcomes (words.map wordOutcome)).numbers = words.filterMap wordNumber? := by
  simp only [Reading.ofOutcomes, List.filterMap_map]
  rfl

private theorem failures_ofOutcomes (words : List Word) :
    (Reading.ofOutcomes (words.map wordOutcome)).failures = words.filterMap wordFailure? := by
  simp only [Reading.ofOutcomes, List.filterMap_map]
  rfl

/-- A text is read as its words are. -/
theorem read_eq (text : String) :
    read text =
      if words text = [] then ⟨[], [missing text.utf8ByteSize .endOfInput]⟩
      else .ofOutcomes ((words text).map wordOutcome) := by
  have hwords : wordsFrom (Reader.ofText text).skipBlanks.2.position
      (Reader.ofText text).skipBlanks.2.rest = words text :=
    wordsFrom_dropWhile_isBlank 0 text.toList
  have hhead := head?_rest_skipBlanks (Reader.ofText text)
  simp only [read]
  cases hend : (Reader.ofText text).skipBlanks.2.rest with
  | nil =>
    have hnil : words text = [] := by rw [← hwords, hend, wordsFrom_nil]
    have hall : text.toList.takeWhile isBlank = text.toList := by
      have hsplit := List.takeWhile_append_dropWhile (p := isBlank) (l := text.toList)
      have hdrop : text.toList.dropWhile isBlank = [] := hend
      rwa [hdrop, List.append_nil] at hsplit
    have hpos : (Reader.ofText text).skipBlanks.2.position = text.utf8ByteSize := by
      rw [← utf8Length_toList, ← Nat.zero_add (utf8Length text.toList), ← hall]
      rfl
    rw [if_pos hnil, if_pos (by rw [Reader.atEnd, hend]; rfl), hpos]
  | cons c rest =>
    have hb : isBlank c = false := hhead c (by rw [hend]; rfl)
    have hne : words text ≠ [] := by
      rw [← hwords, hend, wordsFrom_word hb]
      exact List.cons_ne_nil _ _
    have hmore : ¬(Reader.ofText text).skipBlanks.2.atEnd = true := by
      rw [Reader.atEnd, hend]
      exact Bool.false_ne_true
    rw [if_neg hne, if_neg hmore, readWords_eq _ hhead, hwords]

/-- The numbers of a text, told from its words. -/
theorem numbers_read (text : String) :
    (read text).numbers = (words text).filterMap wordNumber? := by
  rw [read_eq]
  split
  · next hnil =>
    rw [hnil]
    rfl
  · exact numbers_ofOutcomes (words text)

/-- The failures of a text, told from its words. -/
theorem failures_read (text : String) :
    (read text).failures =
      if words text = [] then [missing text.utf8ByteSize .endOfInput]
      else (words text).filterMap wordFailure? := by
  rw [read_eq]
  split
  · rfl
  · exact failures_ofOutcomes (words text)

/-- Reading a text gives the values of its words that are numbers and the failures of the others,
each in the order of the words, and a text without words fails at its end. The words are the
longest runs without blanks, in the order of their offsets. -/
theorem read_eq_wordOutcomes (text : String) :
    (∀ word, word ∈ words text ↔ word.IsRun 0 text.toList) ∧
      (words text).Pairwise (·.offset < ·.offset) ∧
      (read text).numbers = (words text).filterMap wordNumber? ∧
      (read text).failures =
        if words text = [] then
          [.mismatch text.utf8ByteSize (some .endOfInput) [.label "digit"]]
        else (words text).filterMap wordFailure? := by
  refine ⟨?_, pairwise_offset_words text, numbers_read text, failures_read text⟩
  intro word
  exact mem_wordsFrom_iff

end SourceDiagnostics.Numbers
