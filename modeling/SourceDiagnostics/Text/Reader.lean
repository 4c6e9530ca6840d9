import SourceDiagnostics.Text.Blank
import SourceDiagnostics.Text.Utf8

/-!
# Reading a text from front to back

A reader stands between two characters of a text. It knows the characters still to come and
how many bytes lie behind it, so its position is always one where a character begins or the
text ends.
-/

namespace SourceDiagnostics.Text

/-- A stand between two characters of a text. -/
structure Reader where
  /-- The number of bytes in front. -/
  position : Nat
  /-- The characters to come. -/
  rest : List Char
  deriving DecidableEq, Repr

namespace Reader

/-- The reader at the beginning of a text. -/
def ofText (text : String) : Reader := ⟨0, text.toList⟩

/-- The next character, if there is one. -/
def peek? (reader : Reader) : Option Char := reader.rest.head?

/-- Whether no character is to come. -/
def atEnd (reader : Reader) : Bool := reader.rest.isEmpty

/-- Takes the next character, if there is one. -/
def advance (reader : Reader) : Option Char × Reader :=
  match reader.rest with
  | [] => (none, reader)
  | c :: rest => (some c, ⟨reader.position + c.utf8Size, rest⟩)

/-- Takes characters as long as they satisfy `p`. -/
def takeWhile (reader : Reader) (p : Char → Bool) : List Char × Reader :=
  (reader.rest.takeWhile p,
    ⟨reader.position + utf8Length (reader.rest.takeWhile p), reader.rest.dropWhile p⟩)

/-- Takes the blanks to come and tells whether there were any. -/
def skipBlanks (reader : Reader) : Bool × Reader :=
  let (blanks, after) := reader.takeWhile isBlank
  (!blanks.isEmpty, after)

/-- Takes what is to come up to the next blank. -/
def skipWord (reader : Reader) : Reader := (reader.takeWhile (!isBlank ·)).2

@[simp] theorem rest_takeWhile (reader : Reader) (p : Char → Bool) :
    (reader.takeWhile p).2.rest = reader.rest.dropWhile p := rfl

@[simp] theorem fst_takeWhile (reader : Reader) (p : Char → Bool) :
    (reader.takeWhile p).1 = reader.rest.takeWhile p := rfl

@[simp] theorem rest_skipBlanks (reader : Reader) :
    reader.skipBlanks.2.rest = reader.rest.dropWhile isBlank := rfl

@[simp] theorem rest_skipWord (reader : Reader) :
    reader.skipWord.rest = reader.rest.dropWhile (!isBlank ·) := rfl

end Reader

end SourceDiagnostics.Text
