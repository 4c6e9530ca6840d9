import Mathlib.Data.List.TakeWhile
import SourceDiagnostics.Proofs.Utf8
import SourceDiagnostics.Text.Blank

/-!
# The words of a text

A word is a longest run of characters that are no blanks. The words of a text are listed from
front to back, each with the byte offset at which it begins. That the list holds every longest
run and nothing else is `mem_wordsFrom_iff`.
-/

namespace SourceDiagnostics.Text

/-! ### Longest runs -/

/-- A run that something else follows is the longest one. -/
theorem takeWhile_append_of_stop {p : Char → Bool} {run rest : List Char}
    (hrun : ∀ c ∈ run, p c = true) (hrest : ∀ c ∈ rest.head?, p c = false) :
    (run ++ rest).takeWhile p = run := by
  rw [List.takeWhile_append_of_pos hrun]
  cases rest with
  | nil => rw [List.takeWhile_nil, List.append_nil]
  | cons c rest => rw [List.takeWhile_cons_of_neg (by simp [hrest c rfl]), List.append_nil]

/-- What is left behind the longest run is what follows it. -/
theorem dropWhile_append_of_stop {p : Char → Bool} {run rest : List Char}
    (hrun : ∀ c ∈ run, p c = true) (hrest : ∀ c ∈ rest.head?, p c = false) :
    (run ++ rest).dropWhile p = rest := by
  rw [List.dropWhile_append_of_pos hrun]
  cases rest with
  | nil => rfl
  | cons c rest => rw [List.dropWhile_cons_of_neg (by simp [hrest c rfl])]

/-! ### Words -/

/-- Characters of a text and the byte offset at which they begin. -/
structure Word where
  offset : Nat
  chars : List Char
  deriving DecidableEq, Repr

/-- The words among characters that begin at a byte offset. -/
def wordsFrom (offset : Nat) : List Char → List Word
  | [] => []
  | c :: rest =>
    if isBlank c then wordsFrom (offset + c.utf8Size) rest
    else
      let word := c :: rest.takeWhile (!isBlank ·)
      ⟨offset, word⟩ ::
        wordsFrom (offset + utf8Length word) (rest.dropWhile (!isBlank ·))
termination_by chars => chars.length
decreasing_by
  · simp
  · exact Nat.lt_succ_of_le (List.dropWhile_sublist _).length_le

/-- The words of a text. -/
def words (text : String) : List Word := wordsFrom 0 text.toList

/-- A word is a longest run without blanks in characters that begin at a byte offset: no blank is
in it, and on each side of it there is either a blank or nothing. -/
def Word.IsRun (word : Word) (offset : Nat) (chars : List Char) : Prop :=
  ∃ front back, chars = front ++ word.chars ++ back ∧
    word.offset = offset + utf8Length front ∧ word.chars ≠ [] ∧
    (∀ c ∈ word.chars, isBlank c = false) ∧
    (∀ c ∈ front.getLast?, isBlank c = true) ∧ ∀ c ∈ back.head?, isBlank c = true

theorem wordsFrom_nil (offset : Nat) : wordsFrom offset [] = [] := by
  rw [wordsFrom]

theorem wordsFrom_blank {offset : Nat} {c : Char} {rest : List Char} (h : isBlank c = true) :
    wordsFrom offset (c :: rest) = wordsFrom (offset + c.utf8Size) rest := by
  rw [wordsFrom, if_pos h]

theorem wordsFrom_word {offset : Nat} {c : Char} {rest : List Char} (h : isBlank c = false) :
    wordsFrom offset (c :: rest) =
      ⟨offset, c :: rest.takeWhile (!isBlank ·)⟩ ::
        wordsFrom (offset + utf8Length (c :: rest.takeWhile (!isBlank ·)))
          (rest.dropWhile (!isBlank ·)) := by
  rw [wordsFrom, if_neg (by simp [h])]

/-- Blanks in front of the characters hold no words. -/
theorem wordsFrom_dropWhile_isBlank (offset : Nat) (chars : List Char) :
    wordsFrom (offset + utf8Length (chars.takeWhile isBlank)) (chars.dropWhile isBlank) =
      wordsFrom offset chars := by
  induction chars generalizing offset with
  | nil => rfl
  | cons c rest ih =>
    cases h : isBlank c with
    | false => simp [h]
    | true =>
      rw [List.takeWhile_cons_of_pos h, List.dropWhile_cons_of_pos h, utf8Length_cons,
        ← Nat.add_assoc, ih, wordsFrom_blank h]

/-! ### The words are the longest runs -/

/-- What follows a longest run without blanks begins with a blank. -/
theorem isBlank_of_head?_dropWhile {chars : List Char} {c : Char}
    (h : c ∈ (chars.dropWhile (!isBlank ·)).head?) : isBlank c = true := by
  have hn := List.head?_dropWhile_not (!isBlank ·) chars
  rw [Option.mem_def] at h
  simpa [h] using hn

private theorem not_isBlank_of_mem_takeWhile {chars : List Char} {c : Char}
    (h : c ∈ chars.takeWhile (!isBlank ·)) : isBlank c = false := by
  have hall := List.all_eq_true.mp List.all_takeWhile c h
  simpa using hall

private theorem isBlank_of_getLast?_cons {front : List Char} {c : Char}
    (h : ∀ x ∈ (c :: front).getLast?, isBlank x = true) :
    ∀ x ∈ front.getLast?, isBlank x = true := by
  intro x hx
  apply h
  rw [Option.mem_def] at hx ⊢
  rw [List.getLast?_cons, hx, Option.getD_some]

private theorem isRun_blank_iff {word : Word} {offset : Nat} {c : Char} {rest : List Char}
    (h : isBlank c = true) :
    word.IsRun offset (c :: rest) ↔ word.IsRun (offset + c.utf8Size) rest := by
  constructor
  · rintro ⟨front, back, htext, hoffset, hne, hword, hfront, hback⟩
    cases front with
    | nil =>
      obtain ⟨d, ds, hd⟩ := List.exists_cons_of_ne_nil hne
      have hc : c = d := by
        rw [hd] at htext
        exact (List.cons.inj htext).1
      have := hword d (by simp [hd])
      rw [← hc, h] at this
      cases this
    | cons f front =>
      obtain ⟨rfl, hrest⟩ := List.cons.inj htext
      refine ⟨front, back, hrest, ?_, hne, hword, isBlank_of_getLast?_cons hfront, hback⟩
      rw [hoffset, utf8Length_cons, Nat.add_assoc]
  · rintro ⟨front, back, htext, hoffset, hne, hword, hfront, hback⟩
    refine ⟨c :: front, back, by rw [htext]; rfl, ?_, hne, hword, ?_, hback⟩
    · rw [hoffset, utf8Length_cons, Nat.add_assoc]
    · intro x hx
      rw [Option.mem_def, List.getLast?_cons, Option.some.injEq] at hx
      cases hl : front.getLast? with
      | none =>
        rw [hl, Option.getD_none] at hx
        rw [← hx, h]
      | some y =>
        rw [hl, Option.getD_some] at hx
        exact hfront x (by rw [hl, hx]; rfl)

private theorem ne_nil_of_getLast? {front : List Char} {c : Char} (hc : isBlank c = false)
    (h : ∀ x ∈ (c :: front).getLast?, isBlank x = true) : front ≠ [] := by
  rintro rfl
  rw [h c rfl] at hc
  cases hc

/-- A list that ends in a blank keeps its last character when its first word is dropped. -/
private theorem dropWhile_ne_nil {front : List Char} (hne : front ≠ [])
    (h : ∀ x ∈ front.getLast?, isBlank x = true) : front.dropWhile (!isBlank ·) ≠ [] := by
  intro hn
  have hlast := h _ (List.getLast?_eq_some_getLast hne)
  have htake : front.takeWhile (!isBlank ·) = front := by
    have hsplit := List.takeWhile_append_dropWhile (p := (!isBlank ·)) (l := front)
    rwa [hn, List.append_nil] at hsplit
  have hmem : front.getLast hne ∈ front.takeWhile (!isBlank ·) := by
    rw [htake]
    exact List.getLast_mem hne
  have hlast' := not_isBlank_of_mem_takeWhile hmem
  rw [hlast] at hlast'
  cases hlast'

/-- The characters up to the next blank are a longest run. -/
private theorem isRun_takeWhile {offset : Nat} {c : Char} {rest : List Char}
    (h : isBlank c = false) :
    Word.IsRun ⟨offset, c :: rest.takeWhile (!isBlank ·)⟩ offset (c :: rest) := by
  refine ⟨[], rest.dropWhile (!isBlank ·), ?_, rfl, List.cons_ne_nil _ _, ?_, ?_, ?_⟩
  · simp
  · intro x hx
    rcases List.mem_cons.mp hx with rfl | hx
    · exact h
    · exact not_isBlank_of_mem_takeWhile hx
  · simp
  · exact fun x hx ↦ isBlank_of_head?_dropWhile hx

/-- A longest run that begins at once is what stands before the next blank. -/
private theorem eq_takeWhile_of_run {run back chars : List Char} (htext : chars = run ++ back)
    (hrun : ∀ c ∈ run, isBlank c = false) (hback : ∀ c ∈ back.head?, isBlank c = true) :
    run = chars.takeWhile (!isBlank ·) := by
  rw [htext]
  symm
  apply takeWhile_append_of_stop
  · simpa using hrun
  · intro c hc
    rw [hback c hc]
    rfl

/-- A longest run that does not begin at once is behind the word that does, since a blank stands
in front of the run. -/
private theorem Word.IsRun.behind_word {word : Word} {offset : Nat} {c : Char}
    {rest front back : List Char} (h : isBlank c = false)
    (hrest : rest = front ++ (word.chars ++ back))
    (hoffset : word.offset = offset + utf8Length (c :: front)) (hne : word.chars ≠ [])
    (hword : ∀ c ∈ word.chars, isBlank c = false)
    (hfront : ∀ x ∈ (c :: front).getLast?, isBlank x = true)
    (hback : ∀ c ∈ back.head?, isBlank c = true) :
    word.IsRun (offset + utf8Length (c :: rest.takeWhile (!isBlank ·)))
      (rest.dropWhile (!isBlank ·)) := by
  have hnil := ne_nil_of_getLast? h hfront
  have hlast := isBlank_of_getLast?_cons hfront
  have hdrop := dropWhile_ne_nil hnil hlast
  have hsplit : front.takeWhile (!isBlank ·) ++ front.dropWhile (!isBlank ·) = front :=
    List.takeWhile_append_dropWhile
  have hlen : (front.takeWhile (!isBlank ·)).length ≠ front.length := by
    intro he
    apply hdrop
    have hl := congrArg List.length hsplit
    rw [List.length_append] at hl
    exact List.length_eq_zero_iff.mp (by omega)
  refine ⟨front.dropWhile (!isBlank ·), back, ?_, ?_, hne, hword, ?_, hback⟩
  · rw [hrest, List.dropWhile_append, if_neg (by simpa using hdrop), List.append_assoc]
  · rw [hoffset, hrest, List.takeWhile_append, if_neg hlen, Nat.add_assoc,
      ← utf8Length_append, List.cons_append, hsplit]
  · intro x hx
    apply hlast
    rw [Option.mem_def] at hx ⊢
    rw [← hsplit, List.getLast?_append, hx, Option.some_or]

/-- A longest run behind the word that begins at once is one of all characters. -/
private theorem Word.IsRun.of_behind_word {word : Word} {offset : Nat} {c : Char}
    {rest : List Char}
    (hbehind : word.IsRun (offset + utf8Length (c :: rest.takeWhile (!isBlank ·)))
      (rest.dropWhile (!isBlank ·))) : word.IsRun offset (c :: rest) := by
  obtain ⟨front, back, htext, hoffset, hne, hword, hfront, hback⟩ := hbehind
  have hnil : front ≠ [] := by
    rintro rfl
    obtain ⟨d, ds, hd⟩ := List.exists_cons_of_ne_nil hne
    have hhead : d ∈ (rest.dropWhile (!isBlank ·)).head? := by
      rw [htext, hd]
      rfl
    have hblank := isBlank_of_head?_dropWhile hhead
    rw [hword d (by simp [hd])] at hblank
    cases hblank
  refine ⟨c :: rest.takeWhile (!isBlank ·) ++ front, back, ?_, ?_, hne, hword, ?_, hback⟩
  · rw [List.append_assoc, List.append_assoc, ← List.append_assoc front, ← htext,
      List.cons_append, List.takeWhile_append_dropWhile]
  · rw [hoffset, utf8Length_append, Nat.add_assoc]
  · rw [List.getLast?_append, List.getLast?_eq_some_getLast hnil, Option.some_or,
      ← List.getLast?_eq_some_getLast hnil]
    exact hfront

private theorem isRun_word_iff {word : Word} {offset : Nat} {c : Char} {rest : List Char}
    (h : isBlank c = false) :
    word.IsRun offset (c :: rest) ↔
      word = ⟨offset, c :: rest.takeWhile (!isBlank ·)⟩ ∨
        word.IsRun (offset + utf8Length (c :: rest.takeWhile (!isBlank ·)))
          (rest.dropWhile (!isBlank ·)) := by
  constructor
  · rintro ⟨front, back, htext, hoffset, hne, hword, hfront, hback⟩
    rw [List.append_assoc] at htext
    cases front with
    | nil =>
      left
      rw [List.nil_append] at htext
      have hrun := eq_takeWhile_of_run htext hword hback
      rw [List.takeWhile_cons_of_pos (by simp [h])] at hrun
      obtain ⟨start, chars⟩ := word
      rw [Word.mk.injEq]
      exact ⟨hoffset, hrun⟩
    | cons f front =>
      right
      obtain ⟨rfl, hrest⟩ := List.cons.inj htext
      exact .behind_word h hrest hoffset hne hword hfront hback
  · rintro (rfl | hbehind)
    · exact isRun_takeWhile h
    · exact hbehind.of_behind_word

/-- The words are the longest runs without blanks. -/
theorem mem_wordsFrom_iff {word : Word} {offset : Nat} {chars : List Char} :
    word ∈ wordsFrom offset chars ↔ word.IsRun offset chars := by
  fun_induction wordsFrom offset chars with
  | case1 offset =>
    refine ⟨fun h ↦ absurd h List.not_mem_nil, ?_⟩
    rintro ⟨front, back, htext, -, hne, -⟩
    rw [List.append_assoc, List.nil_eq_append_iff, List.append_eq_nil_iff] at htext
    exact absurd htext.2.1 hne
  | case2 offset c rest h ih => rw [ih, isRun_blank_iff h]
  | case3 offset c rest h _ ih =>
    rw [List.mem_cons, ih, isRun_word_iff (by simpa using h)]

/-- No word begins before the characters do. -/
theorem le_offset_of_mem_wordsFrom {word : Word} {offset : Nat} {chars : List Char}
    (h : word ∈ wordsFrom offset chars) : offset ≤ word.offset := by
  obtain ⟨front, back, -, hoffset, -⟩ := mem_wordsFrom_iff.mp h
  omega

/-- Each word begins behind the end of the one before it. -/
theorem pairwise_wordsFrom (offset : Nat) (chars : List Char) :
    (wordsFrom offset chars).Pairwise fun first second ↦
      first.offset + utf8Length first.chars ≤ second.offset := by
  fun_induction wordsFrom offset chars with
  | case1 => exact List.Pairwise.nil
  | case2 offset c rest h ih => exact ih
  | case3 offset c rest h word ih =>
    exact List.pairwise_cons.mpr ⟨fun _ hw ↦ le_offset_of_mem_wordsFrom hw, ih⟩

/-- The words of a text stand in the order of their offsets. -/
theorem pairwise_offset_words (text : String) :
    (words text).Pairwise (·.offset < ·.offset) := by
  apply (pairwise_wordsFrom 0 text.toList).imp_of_mem
  intro first second hfirst _ hle
  obtain ⟨_, _, -, -, hne, -⟩ := mem_wordsFrom_iff.mp hfirst
  have := utf8Length_pos hne
  omega

/-! ### The words of joined characters -/

private theorem takeWhile_append_of_head {p : Char → Bool} {front back : List Char}
    (hback : ∀ c ∈ back.head?, p c = false) :
    (front ++ back).takeWhile p = front.takeWhile p := by
  induction front with
  | nil => exact takeWhile_append_of_stop (fun _ hc ↦ absurd hc List.not_mem_nil) hback
  | cons c front ih =>
    rw [List.cons_append, List.takeWhile_cons, List.takeWhile_cons, ih]

private theorem dropWhile_append_of_head {p : Char → Bool} {front back : List Char}
    (hback : ∀ c ∈ back.head?, p c = false) :
    (front ++ back).dropWhile p = front.dropWhile p ++ back := by
  induction front with
  | nil => exact dropWhile_append_of_stop (fun _ hc ↦ absurd hc List.not_mem_nil) hback
  | cons c front ih =>
    rw [List.cons_append, List.dropWhile_cons, List.dropWhile_cons, ih]
    split <;> rfl

/-- Where a blank or nothing follows some characters, no word reaches from them into what
follows. -/
theorem wordsFrom_append {offset : Nat} {front back : List Char}
    (hback : ∀ c ∈ back.head?, isBlank c = true) :
    wordsFrom offset (front ++ back) =
      wordsFrom offset front ++ wordsFrom (offset + utf8Length front) back := by
  have hstop : ∀ c ∈ back.head?, (!isBlank c) = false := by
    intro c hc
    rw [hback c hc]
    rfl
  fun_induction wordsFrom offset front with
  | case1 offset => rw [List.nil_append, List.nil_append, utf8Length_nil, Nat.add_zero]
  | case2 offset c rest h ih =>
    rw [List.cons_append, wordsFrom_blank h, ih, utf8Length_cons, Nat.add_assoc]
  | case3 offset c rest h word ih =>
    have hlength : utf8Length (c :: rest) =
        utf8Length word + utf8Length (rest.dropWhile (!isBlank ·)) := by
      rw [← utf8Length_append, List.cons_append, List.takeWhile_append_dropWhile]
    rw [List.cons_append, wordsFrom_word (by simpa using h), takeWhile_append_of_head hstop,
      dropWhile_append_of_head hstop, ih, hlength, Nat.add_assoc]
    rfl

/-- Characters hold no words exactly if all of them are blanks. -/
theorem wordsFrom_eq_nil_iff {offset : Nat} {chars : List Char} :
    wordsFrom offset chars = [] ↔ ∀ c ∈ chars, isBlank c = true := by
  fun_induction wordsFrom offset chars with
  | case1 => simp
  | case2 offset c rest h ih => rw [ih, List.forall_mem_cons, and_iff_right h]
  | case3 offset c rest h _ _ =>
    constructor
    · intro hn
      cases hn
    · intro hall
      exact absurd (hall c List.mem_cons_self) h

/-- Characters that are no blanks are one word. -/
theorem wordsFrom_eq_singleton {offset : Nat} {run : List Char} (hne : run ≠ [])
    (hrun : ∀ c ∈ run, isBlank c = false) : wordsFrom offset run = [⟨offset, run⟩] := by
  obtain ⟨c, rest, rfl⟩ := List.exists_cons_of_ne_nil hne
  have hrest : ∀ d ∈ rest, (!isBlank d) = true := by
    intro d hd
    rw [hrun d (List.mem_cons_of_mem c hd)]
    rfl
  rw [wordsFrom_word (hrun c List.mem_cons_self), List.takeWhile_eq_self_iff.mpr hrest,
    List.dropWhile_eq_nil_iff.mpr hrest, wordsFrom_nil]

/-- The same word that many bytes further behind. -/
def Word.moved (distance : Nat) (word : Word) : Word :=
  { word with offset := distance + word.offset }

/-- Words move along with the characters that hold them. -/
theorem wordsFrom_add (distance offset : Nat) (chars : List Char) :
    wordsFrom (distance + offset) chars = (wordsFrom offset chars).map (Word.moved distance) := by
  fun_induction wordsFrom offset chars with
  | case1 => exact wordsFrom_nil _
  | case2 offset c rest h ih => rw [wordsFrom_blank h, Nat.add_assoc, ih]
  | case3 offset c rest h word ih =>
    rw [wordsFrom_word (by simpa using h), Nat.add_assoc, ih, List.map_cons]
    rfl

end SourceDiagnostics.Text
