import SourceDiagnostics.Fault
import SourceDiagnostics.Numbering
import SourceDiagnostics.Text.Utf8

/-!
# Line tables

A line table holds the byte offsets at which the lines of a text begin, in ascending order.
The line of an offset is found by halving the table, its column by counting the characters
that begin between the start of the line and the offset. A table may be asked about another
text than the one it was made from.
-/

namespace SourceDiagnostics

/-- The byte offsets at which lines begin. -/
structure LineTable where
  starts : Array Nat
  deriving DecidableEq, Repr

namespace LineTable

/-- The offsets right behind the line feeds among `bytes`, the first of which is at `offset`. -/
def startsBehind (offset : Nat) : List UInt8 → List Nat
  | [] => []
  | byte :: bytes =>
    if byte = 0x0A then (offset + 1) :: startsBehind (offset + 1) bytes
    else startsBehind (offset + 1) bytes

/-- The table without any line. -/
def empty : LineTable := ⟨#[]⟩

/-- The table of a text: one line begins at its start and one behind each line feed. -/
def ofText (text : String) : LineTable :=
  ⟨(0 :: startsBehind 0 (Text.utf8 text.toList)).toArray⟩

/-- The number of lines in the table. -/
def size (table : LineTable) : Nat := table.starts.size

/-- The number of starts up to `offset`, given that it is at least `low` and at most `high`. -/
def countWithin (starts : Array Nat) (offset low high : Nat) : Nat :=
  if low < high then
    let middle := low + (high - low) / 2
    if starts.getD middle 0 ≤ offset then countWithin starts offset (middle + 1) high
    else countWithin starts offset low middle
  else low
termination_by high - low
decreasing_by all_goals omega

/-- The number of lines that begin at or before an offset. -/
def countUpTo (table : LineTable) (offset : Nat) : Nat :=
  countWithin table.starts offset 0 table.size

/-- The number of the line that holds an offset: the last one to begin at or before it. An
offset before every line is taken to be on the first one. -/
def lineAt (table : LineTable) (offset : Nat) : Except Fault UInt32 :=
  match Numbering.next? (Numbering.narrow (table.countUpTo offset - 1)) with
  | some line => .ok line
  | none => .error .lineOverflow

/-- The offset at which a line begins, if the table has the line. -/
def start? (table : LineTable) (line : UInt32) : Option Nat :=
  if line = 0 then none else table.starts[line.toNat - 1]?

/-- The bytes from offset `start` up to offset `stop`. -/
def cut (bytes : List UInt8) (start stop : Nat) : Except Fault (List UInt8) :=
  if start ≤ stop ∧ stop ≤ bytes.length then .ok ((bytes.drop start).take (stop - start))
  else .error (.cutOutOfRange start stop bytes.length)

/-- The number of characters that begin among the bytes. -/
def beginnings (bytes : List UInt8) : Nat :=
  bytes.countP (!Text.isContinuation ·)

/-- The place of an offset in `text`. An offset past the end counts as the end, and one inside
a character as the offset of the character behind it. -/
def placeIn (table : LineTable) (text : String) (offset : Nat) : Except Fault Place := do
  let bytes := Text.utf8 text.toList
  let stop := min offset bytes.length
  let line ← table.lineAt stop
  let before ← cut bytes ((table.start? line).getD 0) stop
  return ⟨line, Numbering.nextOrGreatest (Numbering.narrow (beginnings before))⟩

/-- As many lines begin behind line feeds as there are line feeds. -/
theorem length_startsBehind (offset : Nat) (bytes : List UInt8) :
    (startsBehind offset bytes).length = bytes.count 0x0A := by
  induction bytes generalizing offset with
  | nil => rfl
  | cons byte bytes ih =>
    rw [startsBehind, List.count_cons]
    split
    · next h => rw [List.length_cons, ih, if_pos (by simpa using h)]
    · next h => rw [ih, if_neg (by simpa using h), Nat.add_zero]

theorem size_ofText (text : String) :
    (ofText text).size = 1 + (Text.utf8 text.toList).count 0x0A := by
  simp [size, ofText, length_startsBehind, Nat.add_comm]

end LineTable

end SourceDiagnostics
