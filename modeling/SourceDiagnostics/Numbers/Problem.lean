import SourceDiagnostics.Payload
import SourceDiagnostics.Text.Quoted

/-!
# Problems with numbers

What can be wrong with a word that begins like a number, and the codes under which the
findings about numbers are known.
-/

namespace SourceDiagnostics.Numbers

/-- What is wrong with a word that begins with a digit. -/
inductive Problem where
  /-- A character among the digits is none of them. -/
  | strayCharacter (found : Char)
  /-- The digits stand for a number beyond the greatest one. -/
  | tooLarge (digits : Nat)
  deriving DecidableEq, Repr

/-- The code of a finding about numbers. -/
inductive Code where
  | numberExpected
  | strayCharacter
  | tooLarge
  deriving DecidableEq, Repr

namespace Code

/-- The code as it is written. -/
def name : Code → String
  | .numberExpected => "E1000"
  | .strayCharacter => "E1001"
  | .tooLarge => "E1002"

/-- What the code stands for. -/
def description : Code → String
  | .numberExpected => "expected a number"
  | .strayCharacter => "invalid digit in number"
  | .tooLarge => "number too large"

/-- The code that is written as `text`. -/
def ofName? (text : String) : Option Code :=
  [numberExpected, strayCharacter, tooLarge].find? (·.name == text)

/-- Reading a code gives it back exactly from the way it is written. -/
theorem ofName?_eq_some_iff {text : String} {code : Code} :
    ofName? text = some code ↔ text = code.name := by
  constructor
  · intro h
    have hname : code.name = text := by simpa using List.find?_some h
    exact hname.symm
  · rintro rfl
    cases code <;> decide

end Code

/-- The greatest number in decimal. -/
def greatestText : String := toString (UInt64.size - 1)

namespace Problem

/-- The code of the problem. -/
def code : Problem → Code
  | .strayCharacter _ => .strayCharacter
  | .tooLarge _ => .tooLarge

/-- The problem in words. -/
def toText : Problem → String
  | .strayCharacter found => "unexpected " ++ Text.quoteChar .unicode found ++ " in number"
  | .tooLarge digits =>
    "number with " ++ toString digits ++ " digits does not fit in 64 bits"

/-- What to tell about the problem apart from the place where it is. -/
def hints : Problem → List Note
  | .strayCharacter _ =>
    [⟨.hint, "numbers may only contain the digits 0-9; separate numbers with whitespace"⟩]
  | .tooLarge _ => [⟨.note, "the largest supported number is " ++ greatestText⟩]

/-- Puts a report under the problem's code; where a number is too large, the greatest one is
suggested in its place. -/
def reshape (problem : Problem) (report : Report) (span : Span) : Report :=
  let report := report.withCode problem.code.name
  match problem with
  | .strayCharacter _ => report
  | .tooLarge _ => report.annotate span .suggestion greatestText

instance : Payload Problem where
  text := toText
  hints := hints
  reshape problem reports span := reports.map (problem.reshape · span)

end Problem

end SourceDiagnostics.Numbers
