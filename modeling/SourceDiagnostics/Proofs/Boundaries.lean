import Mathlib.Data.List.Forall2
import SourceDiagnostics.Proofs.Utf8
import SourceDiagnostics.Text.Reader

/-!
# Readers and the boundaries of a text

A reader carries the characters to come along with its position. A reader that keeps the whole text
and knows nothing but a byte offset has to cut off what is to come whenever it looks at it, and a
cut is refused where no character begins. The two answer any calls alike and come to the same
offsets, so none of the cuts is refused, not even one in the middle of a call.
-/

namespace SourceDiagnostics.Text

/-! ### Pieces of a text -/

/-- A byte offset of a text is a boundary if a character begins there or the text ends. -/
def IsBoundary (text : String) (offset : Nat) : Prop :=
  (String.Pos.Raw.mk offset).IsValid text

instance (text : String) (offset : Nat) : Decidable (IsBoundary text offset) :=
  inferInstanceAs (Decidable ((String.Pos.Raw.mk offset).IsValid text))

/-- The piece of a text from one byte offset up to another. It is refused unless both are
boundaries and stand in this order. -/
def piece? (text : String) (start stop : Nat) : Option String :=
  if h : IsBoundary text start ∧ IsBoundary text stop ∧ start ≤ stop then
    some (text.extract ⟨⟨start⟩, h.1⟩ ⟨⟨stop⟩, h.2.1⟩)
  else none

/-- The end of characters as an offset of the core library. -/
private theorem rawEndPos_ofList (chars : List Char) :
    (String.ofList chars).rawEndPos = ⟨utf8Length chars⟩ := by
  rw [String.Pos.Raw.ext_iff, String.byteIdx_rawEndPos, ← utf8Length_toList, String.toList_ofList]

/-- Boundaries are the offsets behind the first characters of a text. -/
theorem isBoundary_iff {text : String} {offset : Nat} :
    IsBoundary text offset ↔
      ∃ front back, text.toList = front ++ back ∧ offset = utf8Length front := by
  rw [IsBoundary, String.Pos.Raw.isValid_iff_exists_append]
  constructor
  · rintro ⟨front, back, rfl, hoffset⟩
    refine ⟨front.toList, back.toList, String.toList_append, ?_⟩
    rw [utf8Length_toList]
    exact congrArg String.Pos.Raw.byteIdx hoffset
  · rintro ⟨front, back, htext, rfl⟩
    refine ⟨.ofList front, .ofList back, ?_, (rawEndPos_ofList front).symm⟩
    rw [← String.toList_inj, htext, String.toList_append, String.toList_ofList,
      String.toList_ofList]

/-- The second byte of a character is no boundary. -/
example : IsBoundary "é" 0 ∧ ¬IsBoundary "é" 1 ∧ IsBoundary "é" 2 := by decide

/-- A boundary is no further than the end of the text. -/
theorem IsBoundary.le_size {text : String} {offset : Nat} (h : IsBoundary text offset) :
    offset ≤ text.utf8ByteSize := h.le_rawEndPos

/-- Where there is a piece between two offsets, they are boundaries in their order. -/
theorem bounds_of_piece? {text piece : String} {start stop : Nat}
    (h : piece? text start stop = some piece) :
    IsBoundary text start ∧ IsBoundary text stop ∧ start ≤ stop := by
  rw [piece?] at h
  split at h
  · assumption
  · cases h

/-- Between the offset behind some characters and the one behind further characters, the text has
the further ones for its piece. -/
theorem piece?_of_toList {text : String} {front piece back : List Char}
    (htext : text.toList = front ++ piece ++ back) :
    piece? text (utf8Length front) (utf8Length front + utf8Length piece) =
      some (.ofList piece) := by
  have hstart : IsBoundary text (utf8Length front) :=
    isBoundary_iff.mpr ⟨front, piece ++ back, by rw [htext, List.append_assoc], rfl⟩
  have hstop : IsBoundary text (utf8Length front + utf8Length piece) :=
    isBoundary_iff.mpr ⟨front ++ piece, back, htext, (utf8Length_append _ _).symm⟩
  have hle : utf8Length front ≤ utf8Length front + utf8Length piece := Nat.le_add_right _ _
  have happend : text = .ofList front ++ .ofList piece ++ .ofList back := by
    rw [← String.toList_inj, htext]
    simp only [String.toList_append, String.toList_ofList]
  let first : text.Pos := ⟨⟨utf8Length front⟩, hstart⟩
  let last : text.Pos := ⟨⟨utf8Length front + utf8Length piece⟩, hstop⟩
  have hfirst : first.Splits (.ofList front) (.ofList piece ++ .ofList back) :=
    ⟨by rw [← String.append_assoc, ← happend], (rawEndPos_ofList front).symm⟩
  have hlast : last.Splits (.ofList front ++ .ofList piece) (.ofList back) :=
    ⟨happend, by rw [← String.ofList_append, rawEndPos_ofList, utf8Length_append]⟩
  obtain ⟨_, hcopy⟩ := String.copy_slice_eq_iff_splits.mpr ⟨_, _, hfirst, hlast⟩
  rw [piece?, dif_pos ⟨hstart, hstop, hle⟩, String.extract_eq_copy_slice first last hle, hcopy]

/-! ### Readers that know their offset only -/

/-- A reader that keeps the text and knows how many of its bytes are in front. -/
structure OffsetReader where
  text : String
  position : Nat
  deriving DecidableEq, Repr

namespace OffsetReader

/-- The reader at the beginning of a text. -/
def ofText (text : String) : OffsetReader := ⟨text, 0⟩

/-- Whether no bytes are to come. -/
def atEnd (reader : OffsetReader) : Bool := reader.text.utf8ByteSize ≤ reader.position

/-- What is to come, cut off the text. -/
def rest? (reader : OffsetReader) : Option String :=
  piece? reader.text reader.position reader.text.utf8ByteSize

/-- The next character, if there is one. -/
def peek? (reader : OffsetReader) : Option (Option Char) :=
  reader.rest?.map (·.toList.head?)

/-- The reader that many bytes further on. -/
def moved (reader : OffsetReader) (distance : Nat) : OffsetReader :=
  { reader with position := reader.position + distance }

/-- Takes the next character, if there is one. -/
def advance? (reader : OffsetReader) : Option (Option Char × OffsetReader) := do
  match ← reader.peek? with
  | none => return (none, reader)
  | some c => return (some c, reader.moved c.utf8Size)

/-- At a boundary all characters behind it are to come. -/
theorem rest?_of_toList {text : String} {front rest : List Char}
    (htext : text.toList = front ++ rest) :
    (mk text (utf8Length front)).rest? = some (.ofList rest) := by
  have hsize : text.utf8ByteSize = utf8Length front + utf8Length rest := by
    rw [← utf8Length_toList, htext, utf8Length_append]
  have hsplit : text.toList = front ++ rest ++ [] := by rw [htext, List.append_nil]
  rw [rest?, hsize]
  exact piece?_of_toList hsplit

/-- A reader that sees a character has bytes to come. -/
theorem position_lt_of_peek? {reader : OffsetReader} {c : Char}
    (h : reader.peek? = some (some c)) : reader.position < reader.text.utf8ByteSize := by
  obtain ⟨text, position⟩ := reader
  obtain ⟨piece, hpiece, hhead⟩ := Option.map_eq_some_iff.mp h
  obtain ⟨front, back, htext, rfl⟩ := isBoundary_iff.mp (bounds_of_piece? hpiece).1
  rw [rest?_of_toList htext, Option.some_inj] at hpiece
  have hne : back ≠ [] := by
    rintro rfl
    rw [← hpiece] at hhead
    cases hhead
  rw [← utf8Length_toList, htext, utf8Length_append]
  exact Nat.lt_add_of_pos_right (utf8Length_pos hne)

/-- Moves over characters one by one as long as they satisfy `p`. -/
def passWhile? (reader : OffsetReader) (p : Char → Bool) : Option OffsetReader :=
  match _h : reader.peek? with
  | none => none
  | some none => some reader
  | some (some c) => if p c then (reader.moved c.utf8Size).passWhile? p else some reader
termination_by reader.text.utf8ByteSize - reader.position
decreasing_by
  have hlt := position_lt_of_peek? _h
  have hpos := c.utf8Size_pos
  simp only [moved]
  omega

/-- Takes characters as long as they satisfy `p`, and cuts them off the text afterwards. -/
def takeWhile? (reader : OffsetReader) (p : Char → Bool) : Option (String × OffsetReader) := do
  let after ← reader.passWhile? p
  let taken ← piece? reader.text reader.position after.position
  return (taken, after)

/-- Takes the blanks to come and tells whether there were any. -/
def skipBlanks? (reader : OffsetReader) : Option (Bool × OffsetReader) := do
  let (blanks, after) ← reader.takeWhile? isBlank
  return (!blanks.isEmpty, after)

/-- Takes what is to come up to the next blank. -/
def skipWord? (reader : OffsetReader) : Option OffsetReader := do
  let (_, after) ← reader.takeWhile? (!isBlank ·)
  return after

/-- A reader that sees no character moves over none. -/
theorem passWhile?_of_peek?_none {reader : OffsetReader} (h : reader.peek? = some none)
    (p : Char → Bool) : reader.passWhile? p = some reader := by
  rw [passWhile?]
  split <;> simp_all

/-- A reader that sees a character moves over it if it satisfies `p`, and goes on behind it. -/
theorem passWhile?_of_peek?_some {reader : OffsetReader} {c : Char}
    (h : reader.peek? = some (some c)) (p : Char → Bool) :
    reader.passWhile? p =
      if p c then (reader.moved c.utf8Size).passWhile? p else some reader := by
  rw [passWhile?]
  split <;> simp_all

end OffsetReader

/-! ### Where a reader stands -/

namespace Reader

/-- A reader stands in a text if the characters to come are the last ones of the text and its
position counts the bytes of those in front of them. -/
def StandsIn (reader : Reader) (text : String) : Prop :=
  ∃ front, text.toList = front ++ reader.rest ∧ reader.position = utf8Length front

/-- The reader at the same position that knows the text and the offset only. -/
def forget (reader : Reader) (text : String) : OffsetReader := ⟨text, reader.position⟩

theorem standsIn_ofText (text : String) : (ofText text).StandsIn text := ⟨[], rfl, rfl⟩

namespace StandsIn

variable {reader : Reader} {text : String}

/-- A reader that has moved over some of the characters to come still stands in the text. -/
theorem moved (h : reader.StandsIn text) {taken rest : List Char}
    (hrest : reader.rest = taken ++ rest) :
    StandsIn ⟨reader.position + utf8Length taken, rest⟩ text := by
  obtain ⟨front, htext, hposition⟩ := h
  refine ⟨front ++ taken, ?_, ?_⟩
  · rw [htext, hrest, List.append_assoc]
  · rw [utf8Length_append, hposition]

/-- The characters that a reader moves over are the piece of the text between the two positions. -/
theorem piece?_eq (h : reader.StandsIn text) {taken rest : List Char}
    (hrest : reader.rest = taken ++ rest) :
    piece? text reader.position (reader.position + utf8Length taken) = some (.ofList taken) := by
  obtain ⟨front, htext, hposition⟩ := h
  have hsplit : text.toList = front ++ taken ++ rest := by
    rw [htext, hrest, List.append_assoc]
  rw [hposition]
  exact piece?_of_toList hsplit

/-- A reader stands at a boundary. -/
theorem isBoundary (h : reader.StandsIn text) : IsBoundary text reader.position := by
  obtain ⟨front, htext, hposition⟩ := h
  exact isBoundary_iff.mpr ⟨front, reader.rest, htext, hposition⟩

theorem rest?_forget (h : reader.StandsIn text) :
    (reader.forget text).rest? = some (.ofList reader.rest) := by
  obtain ⟨front, htext, hposition⟩ := h
  rw [forget, hposition]
  exact OffsetReader.rest?_of_toList htext

theorem peek?_forget (h : reader.StandsIn text) :
    (reader.forget text).peek? = some reader.peek? := by
  rw [OffsetReader.peek?, h.rest?_forget, Option.map_some, String.toList_ofList]
  rfl

/-- No bytes are to come exactly if no characters are. -/
theorem atEnd_forget (h : reader.StandsIn text) : (reader.forget text).atEnd = reader.atEnd := by
  obtain ⟨front, htext, hposition⟩ := h
  have hsize : text.utf8ByteSize = reader.position + utf8Length reader.rest := by
    rw [← utf8Length_toList, htext, utf8Length_append, hposition]
  rw [Bool.eq_iff_iff, OffsetReader.atEnd, decide_eq_true_eq, atEnd, List.isEmpty_iff]
  change text.utf8ByteSize ≤ reader.position ↔ reader.rest = []
  constructor
  · intro hle
    refine Decidable.byContradiction fun hne ↦ ?_
    have := utf8Length_pos hne
    omega
  · intro hnil
    rw [hsize, hnil, utf8Length_nil]
    exact Nat.le_refl _

theorem advance?_forget (h : reader.StandsIn text) :
    (reader.forget text).advance? = some (reader.advance.1, reader.advance.2.forget text) := by
  rw [OffsetReader.advance?, h.peek?_forget, peek?, advance]
  cases reader.rest <;> rfl

/-- Moving over characters one by one comes to where all of them have been taken. -/
theorem passWhile?_forget (h : reader.StandsIn text) (p : Char → Bool) :
    (reader.forget text).passWhile? p = some ((reader.takeWhile p).2.forget text) := by
  obtain ⟨position, rest⟩ := reader
  induction rest generalizing position with
  | nil => exact OffsetReader.passWhile?_of_peek?_none h.peek?_forget p
  | cons c rest ih =>
    have hsplit : c :: rest = [c] ++ rest := rfl
    have hmoved : StandsIn ⟨position + c.utf8Size, rest⟩ text := h.moved hsplit
    rw [OffsetReader.passWhile?_of_peek?_some h.peek?_forget]
    split
    · next hc =>
      have hnext := ih _ hmoved
      simp only [takeWhile, List.takeWhile_cons_of_pos hc, List.dropWhile_cons_of_pos hc,
        utf8Length_cons, ← Nat.add_assoc] at hnext ⊢
      exact hnext
    · next hc =>
      simp only [takeWhile, List.takeWhile_cons_of_neg hc, List.dropWhile_cons_of_neg hc]
      rfl

theorem takeWhile?_forget (h : reader.StandsIn text) (p : Char → Bool) :
    (reader.forget text).takeWhile? p =
      some (.ofList (reader.takeWhile p).1, (reader.takeWhile p).2.forget text) := by
  have hpiece : piece? text reader.position (reader.takeWhile p).2.position =
      some (.ofList (reader.takeWhile p).1) :=
    h.piece?_eq (List.takeWhile_append_dropWhile (p := p)).symm
  rw [OffsetReader.takeWhile?, h.passWhile?_forget]
  simp only [forget, Option.bind_eq_bind, Option.bind_some, hpiece, Option.pure_def]

theorem skipBlanks?_forget (h : reader.StandsIn text) :
    (reader.forget text).skipBlanks? =
      some (reader.skipBlanks.1, reader.skipBlanks.2.forget text) := by
  have hempty (chars : List Char) : (String.ofList chars).isEmpty = chars.isEmpty := by
    rw [Bool.eq_iff_iff, String.isEmpty_iff, List.isEmpty_iff, String.ofList_eq_empty_iff]
  simp only [OffsetReader.skipBlanks?, h.takeWhile?_forget, skipBlanks, hempty,
    Option.bind_eq_bind, Option.bind_some, Option.pure_def]

theorem skipWord?_forget (h : reader.StandsIn text) :
    (reader.forget text).skipWord? = some (reader.skipWord.forget text) := by
  simp only [OffsetReader.skipWord?, h.takeWhile?_forget, skipWord, Option.bind_eq_bind,
    Option.bind_some, Option.pure_def]

end StandsIn

end Reader

/-! ### Calls in a row -/

namespace Reader

/-- A call to a reader. -/
inductive Call where
  | peek
  | advance
  | takeWhile (p : Char → Bool)
  | skipBlanks
  | skipWord

/-- What a reader answers to a call. -/
inductive Answer where
  | character (c? : Option Char)
  | taken (piece : String)
  | told (any : Bool)
  | nothing
  deriving DecidableEq, Repr

/-- A call that was made, the answer to it, and the positions of the reader before and after it. -/
structure Step where
  call : Call
  answer : Answer
  start : Nat
  stop : Nat

/-- Answers a call. -/
def step (reader : Reader) : Call → Answer × Reader
  | .peek => (.character reader.peek?, reader)
  | .advance => (.character reader.advance.1, reader.advance.2)
  | .takeWhile p => (.taken (.ofList (reader.takeWhile p).1), (reader.takeWhile p).2)
  | .skipBlanks => (.told reader.skipBlanks.1, reader.skipBlanks.2)
  | .skipWord => (.nothing, reader.skipWord)

/-- Answers calls one after the other. -/
def run (reader : Reader) : List Call → List Step × Reader
  | [] => ([], reader)
  | call :: calls =>
    let (answer, after) := reader.step call
    let (steps, last) := after.run calls
    (⟨call, answer, reader.position, after.position⟩ :: steps, last)

end Reader

namespace OffsetReader

open Reader (Call Answer Step)

/-- Answers a call. -/
def step? (reader : OffsetReader) : Call → Option (Answer × OffsetReader)
  | .peek => return (.character (← reader.peek?), reader)
  | .advance => do
    let (c?, after) ← reader.advance?
    return (.character c?, after)
  | .takeWhile p => do
    let (piece, after) ← reader.takeWhile? p
    return (.taken piece, after)
  | .skipBlanks => do
    let (any, after) ← reader.skipBlanks?
    return (.told any, after)
  | .skipWord => return (.nothing, ← reader.skipWord?)

/-- Answers calls one after the other. -/
def run? (reader : OffsetReader) : List Call → Option (List Step × OffsetReader)
  | [] => some ([], reader)
  | call :: calls => do
    let (answer, after) ← reader.step? call
    let (steps, last) ← after.run? calls
    return (⟨call, answer, reader.position, after.position⟩ :: steps, last)

end OffsetReader

/-- The longest front part of characters in which all of them satisfy `p`. -/
structure IsLongestRun (p : Char → Bool) (chars run : List Char) : Prop where
  front : run <+: chars
  all : ∀ c ∈ run, p c = true
  longest : ∀ other, other <+: chars → (∀ c ∈ other, p c = true) → other <+: run

theorem isLongestRun_takeWhile (p : Char → Bool) (chars : List Char) :
    IsLongestRun p chars (chars.takeWhile p) where
  front := List.takeWhile_prefix p
  all := List.all_eq_true.mp List.all_takeWhile
  longest := by
    rintro other ⟨rest, rfl⟩ hother
    rw [List.takeWhile_append_of_pos hother]
    exact List.prefix_append _ _

namespace Reader

/-- What a call takes of the characters to come, and the answer to it. -/
inductive Call.Takes (rest : List Char) : Call → List Char → Answer → Prop where
  | peek : Takes rest .peek [] (.character rest.head?)
  | advance : Takes rest .advance rest.head?.toList (.character rest.head?)
  | takeWhile {p : Char → Bool} {run : List Char} (h : IsLongestRun p rest run) :
    Takes rest (.takeWhile p) run (.taken (.ofList run))
  | skipBlanks {run : List Char} (h : IsLongestRun isBlank rest run) :
    Takes rest .skipBlanks run (.told !run.isEmpty)
  | skipWord {run : List Char} (h : IsLongestRun (!isBlank ·) rest run) :
    Takes rest .skipWord run .nothing

/-- A step within a text goes from a boundary to one that is no earlier. What its call takes is the
piece of the text between the two, out of all that is to come. -/
structure Step.IsWithin (step : Step) (text : String) : Prop where
  start : IsBoundary text step.start
  stop : IsBoundary text step.stop
  le : step.start ≤ step.stop
  takes : ∃ piece rest, piece? text step.start step.stop = some piece ∧
    piece? text step.start text.utf8ByteSize = some rest ∧
    step.call.Takes rest.toList piece.toList step.answer

/-- A call takes characters from the front of those to come. -/
theorem exists_takes_step (reader : Reader) (call : Call) :
    ∃ taken, reader.rest = taken ++ (reader.step call).2.rest ∧
      (reader.step call).2.position = reader.position + utf8Length taken ∧
      call.Takes reader.rest taken (reader.step call).1 := by
  have hsplit (p : Char → Bool) :
      reader.rest = reader.rest.takeWhile p ++ reader.rest.dropWhile p :=
    List.takeWhile_append_dropWhile.symm
  cases call with
  | peek => exact ⟨[], rfl, rfl, .peek⟩
  | advance =>
    refine ⟨reader.rest.head?.toList, ?_⟩
    obtain ⟨position, rest⟩ := reader
    cases rest with
    | nil => exact ⟨rfl, rfl, .advance⟩
    | cons c rest => exact ⟨rfl, rfl, .advance⟩
  | takeWhile p => exact ⟨_, hsplit p, rfl, .takeWhile (isLongestRun_takeWhile p _)⟩
  | skipBlanks => exact ⟨_, hsplit isBlank, rfl, .skipBlanks (isLongestRun_takeWhile _ _)⟩
  | skipWord => exact ⟨_, hsplit _, rfl, .skipWord (isLongestRun_takeWhile _ _)⟩

namespace StandsIn

variable {reader : Reader} {text : String}

/-- A call leaves a reader standing in the text. -/
theorem step (h : reader.StandsIn text) (call : Call) : (reader.step call).2.StandsIn text := by
  obtain ⟨taken, hrest, hposition, -⟩ := exists_takes_step reader call
  have hmoved := h.moved hrest
  rwa [← hposition] at hmoved

theorem isWithin_step (h : reader.StandsIn text) (call : Call) :
    Step.IsWithin ⟨call, (reader.step call).1, reader.position, (reader.step call).2.position⟩
      text := by
  obtain ⟨taken, hrest, hposition, htakes⟩ := exists_takes_step reader call
  refine ⟨h.isBoundary, (h.step call).isBoundary, ?_, .ofList taken, .ofList reader.rest, ?_,
    h.rest?_forget, ?_⟩
  · rw [hposition]
    exact Nat.le_add_right _ _
  · rw [hposition]
    exact h.piece?_eq hrest
  · rwa [String.toList_ofList, String.toList_ofList]

/-- A reader that knows its offset only answers a call alike. -/
theorem step?_forget (h : reader.StandsIn text) (call : Call) :
    (reader.forget text).step? call =
      some ((reader.step call).1, (reader.step call).2.forget text) := by
  cases call <;>
    simp [OffsetReader.step?, Reader.step, h.peek?_forget, h.advance?_forget,
      h.takeWhile?_forget, h.skipBlanks?_forget, h.skipWord?_forget]

/-- Calls in a row are answered alike, too, and no piece is refused on the way. -/
theorem run?_forget (h : reader.StandsIn text) (calls : List Call) :
    (reader.forget text).run? calls =
      some ((reader.run calls).1, (reader.run calls).2.forget text) := by
  induction calls generalizing reader with
  | nil => rfl
  | cons call calls ih =>
    simp only [OffsetReader.run?, h.step?_forget, Option.bind_eq_bind, Option.bind_some,
      ih (h.step call)]
    rfl

theorem isWithin_of_mem_run (h : reader.StandsIn text) {calls : List Call} :
    ∀ step ∈ (reader.run calls).1, step.IsWithin text := by
  induction calls generalizing reader with
  | nil => exact fun _ hmem ↦ absurd hmem List.not_mem_nil
  | cons call calls ih =>
    rw [run, List.forall_mem_cons]
    exact ⟨h.isWithin_step call, ih (h.step call)⟩

/-- What the steps of a run take stands in front of what is to come, in the order of the steps. -/
theorem exists_pieces_run (h : reader.StandsIn text) (calls : List Call) :
    ∃ pieces, List.Forall₂ (fun step piece ↦ piece? text step.start step.stop = some piece)
        (reader.run calls).1 pieces ∧
      reader.rest = (String.join pieces).toList ++ (reader.run calls).2.rest ∧
      (reader.run calls).2.position =
        reader.position + utf8Length (String.join pieces).toList := by
  induction calls generalizing reader with
  | nil => exact ⟨[], .nil, rfl, rfl⟩
  | cons call calls ih =>
    obtain ⟨taken, hrest, hposition, -⟩ := exists_takes_step reader call
    obtain ⟨pieces, hpieces, hlater, hlast⟩ := ih (h.step call)
    have hpiece := h.piece?_eq hrest
    rw [← hposition] at hpiece
    refine ⟨.ofList taken :: pieces, .cons hpiece hpieces, ?_, ?_⟩
    · rw [String.join_cons, String.toList_append, String.toList_ofList, List.append_assoc, run,
        ← hlater]
      exact hrest
    · rw [String.join_cons, String.toList_append, String.toList_ofList, utf8Length_append,
        ← Nat.add_assoc, ← hposition]
      exact hlast

end StandsIn

theorem map_call_run (reader : Reader) (calls : List Call) :
    (reader.run calls).1.map Step.call = calls := by
  induction calls generalizing reader with
  | nil => rfl
  | cons call calls ih => rw [run, List.map_cons, ih]

/-- Whatever calls are made to a reader of a text, each of them leads from a boundary of the text to
one that is no earlier, and takes the piece in between, which is the longest run of what is to come
where a call takes a run. All pieces in their order make up the text in front of the last position.
A reader that cuts what is to come off the text each time it looks at it gives the same answers at
the same positions and is never refused a piece. Wherever the calls lead, the end is where no
character can be seen. -/
theorem run_staysOnBoundaries (text : String) (calls : List Call) :
    ∃ steps last pieces,
      (ofText text).run calls = (steps, last) ∧ steps.map Step.call = calls ∧
      (OffsetReader.ofText text).run? calls = some (steps, last.forget text) ∧
      (∀ step ∈ steps, step.IsWithin text) ∧
      List.Forall₂ (fun step piece ↦ piece? text step.start step.stop = some piece)
        steps pieces ∧
      piece? text 0 last.position = some (String.join pieces) ∧
      IsBoundary text last.position ∧ last.position ≤ text.utf8ByteSize ∧
      (last.atEnd = true ↔ last.peek? = none) ∧
      ((last.forget text).atEnd = true ↔ (last.forget text).peek? = some none) := by
  have hfirst := standsIn_ofText text
  obtain ⟨pieces, hpieces, hrest, hposition⟩ := hfirst.exists_pieces_run calls
  have hlast := hfirst.moved hrest
  rw [← hposition] at hlast
  have hjoin := hfirst.piece?_eq hrest
  rw [← hposition, String.ofList_toList] at hjoin
  have hend : ((ofText text).run calls).2.atEnd = true ↔
      ((ofText text).run calls).2.peek? = none := by
    rw [atEnd, peek?, List.isEmpty_iff, List.head?_eq_none_iff]
  refine ⟨_, _, pieces, rfl, map_call_run _ _, hfirst.run?_forget calls,
    hfirst.isWithin_of_mem_run, hpieces, hjoin, hlast.isBoundary, hlast.isBoundary.le_size, hend,
    ?_⟩
  rw [hlast.atEnd_forget, hlast.peek?_forget, Option.some_inj]
  exact hend

/-- Calls of all kinds to a reader that cuts off a character of two bytes on its way. -/
theorem run_staysOnBoundaries_five :
    ∃ steps last,
      (OffsetReader.ofText "1é 2").run?
          [.advance, .takeWhile (· == 'é'), .skipBlanks, .skipWord, .peek] = some (steps, last) ∧
        steps.map Step.answer =
          [.character (some '1'), .taken "é", .told true, .nothing, .character none] ∧
        steps.map Step.stop = [1, 3, 4, 5, 5] ∧ last.position = 5 := by
  obtain ⟨steps, last, -, hrun, -, hoffsets, -⟩ := run_staysOnBoundaries "1é 2"
    [.advance, .takeWhile (· == 'é'), .skipBlanks, .skipWord, .peek]
  obtain ⟨rfl, rfl⟩ := Prod.mk.inj hrun
  exact ⟨_, _, hoffsets, by decide, by decide, by decide⟩

end Reader

end SourceDiagnostics.Text
