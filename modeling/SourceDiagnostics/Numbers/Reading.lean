import SourceDiagnostics.Failure.Basic
import SourceDiagnostics.Numbers.Problem
import SourceDiagnostics.Text.Reader

/-!
# Reading numbers

A text of numbers is a list of words between blanks, each made of the digits 0 to 9. A word
that is no number is a failure, and reading goes on behind it, so each word has one outcome.
A text without words is a failure at its end.
-/

namespace SourceDiagnostics.Numbers

open Text (Reader)

/-- What becomes of a word. -/
abbrev Outcome := Except (Failure Problem) UInt64

/-- The number with one more digit at its end, if it fits. -/
def addDigit? (number : UInt64) (digit : Char) : Option UInt64 :=
  let value := number.toNat * 10 + (digit.toNat - '0'.toNat)
  if value < UInt64.size then some (UInt64.ofNat value) else none

/-- The number that the digits stand for, if it fits. -/
def value? (digits : List Char) : Option UInt64 := digits.foldlM addDigit? 0

/-- The failure of finding no number at a position. -/
def missing (position : Nat) (found : Item) : Failure Problem :=
  .mismatch position (some found) [.label "digit"]

/-- The outcome of a word that begins at position `start` with `digits`, which `after` stands
behind. The word is a number if it ends there and its digits are not too many. -/
def outcome (start : Nat) (digits : List Char) (after : Reader) : Outcome :=
  match after.peek?.filter (!Text.isBlank ·) with
  | some found =>
    if digits.isEmpty then .error (missing after.position (.literal (String.singleton found)))
    else .error (.payload after.position (.strayCharacter found))
  | none =>
    match value? digits with
    | some number => .ok number
    | none => .error (.payload start (.tooLarge digits.length))

/-- Reads the digits to come as a number. -/
def readNumber (reader : Reader) : Outcome × Reader :=
  let (digits, after) := reader.takeWhile Char.isDigit
  (outcome reader.position digits after, after)

/-- Reads a word and the blanks behind it. Where the word is no number, what is left of it is
passed over. -/
def readWord (reader : Reader) : Outcome × Reader :=
  let (outcome, after) := readNumber reader
  let behind := if outcome.isOk then after else after.skipWord
  (outcome, behind.skipBlanks.2)

private theorem length_dropWhile_le (p : Char → Bool) (chars : List Char) :
    (chars.dropWhile p).length ≤ chars.length :=
  (List.dropWhile_sublist p).length_le

private theorem length_dropWhile_lt {p : Char → Bool} {c : Char} (chars : List Char)
    (h : p c = true) : ((c :: chars).dropWhile p).length < (c :: chars).length := by
  have := length_dropWhile_le p chars
  simp only [List.dropWhile_cons, h, ↓reduceIte, List.length_cons]
  omega

theorem rest_readNumber (reader : Reader) :
    (readNumber reader).2.rest = reader.rest.dropWhile Char.isDigit := rfl

/-- A character that is neither a digit nor a blank is no number. -/
theorem isOk_readNumber_of_stray {reader : Reader} {c : Char} {rest : List Char}
    (h : reader.rest = c :: rest) (hd : c.isDigit = false) (hb : Text.isBlank c = false) :
    (readNumber reader).1.isOk = false := by
  simp [readNumber, Reader.takeWhile, outcome, Reader.peek?, Option.filter_some, h, hd, hb,
    Except.isOk, Except.toBool]

/-- Reading a word moves on, whatever character comes first. -/
theorem length_rest_readWord_lt {reader : Reader} (h : reader.atEnd = false) :
    (readWord reader).2.rest.length < reader.rest.length := by
  obtain ⟨c, rest, hr⟩ : ∃ c rest, reader.rest = c :: rest :=
    List.exists_cons_of_ne_nil fun hn ↦ by simp [Reader.atEnd, hn] at h
  have hn := rest_readNumber reader
  have hle (p : Char → Bool) (chars : List Char) := length_dropWhile_le p chars
  simp only [readWord, Reader.rest_skipBlanks]
  rw [hr] at hn ⊢
  by_cases hd : c.isDigit = true
  · have hlt := length_dropWhile_lt (p := Char.isDigit) rest hd
    rw [← hn] at hlt
    split
    · exact Nat.lt_of_le_of_lt (hle _ _) hlt
    · exact Nat.lt_of_le_of_lt (Nat.le_trans (hle _ _) (hle _ _)) hlt
  · rw [List.dropWhile_cons_of_neg hd] at hn
    by_cases hb : Text.isBlank c = true
    · have hlt := length_dropWhile_lt (p := Text.isBlank) rest hb
      split
      · rwa [hn]
      · rw [Reader.rest_skipWord, hn, List.dropWhile_cons_of_neg (by simp [hb])]
        exact hlt
    · have hlt := length_dropWhile_lt (p := (!Text.isBlank ·)) rest (by simpa using hb)
      rw [if_neg (by simp [isOk_readNumber_of_stray hr (by simpa using hd) (by simpa using hb)]),
        Reader.rest_skipWord, hn]
      exact Nat.lt_of_le_of_lt (hle _ _) hlt

/-- The outcomes of the words to come. -/
def readWords (reader : Reader) : List Outcome :=
  if reader.atEnd then []
  else (readWord reader).1 :: readWords (readWord reader).2
termination_by reader.rest.length
decreasing_by exact @length_rest_readWord_lt reader (by simp_all)

/-- The numbers and the failures of a text. -/
structure Reading where
  numbers : List UInt64
  failures : List (Failure Problem)
  deriving DecidableEq

/-- Sorts outcomes into numbers and failures and keeps the order of each. -/
def Reading.ofOutcomes (outcomes : List Outcome) : Reading where
  numbers := outcomes.filterMap fun
    | .ok number => some number
    | .error _ => none
  failures := outcomes.filterMap fun
    | .ok _ => none
    | .error failure => some failure

/-- Whether nothing failed. -/
def Reading.succeeded (reading : Reading) : Bool := reading.failures.isEmpty

/-- Reads the numbers of a text. -/
def read (text : String) : Reading :=
  let reader := (Reader.ofText text).skipBlanks.2
  if reader.atEnd then ⟨[], [missing reader.position .endOfInput]⟩
  else .ofOutcomes (readWords reader)

end SourceDiagnostics.Numbers
