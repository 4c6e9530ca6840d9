import Std.Data.ExtTreeSet
import SourceDiagnostics.Text.Quoted

/-!
# What a parser meets and expects

An item is a literal text of the input, something named by a label, or the end of the input.
Items are ordered: literals first, then labels, each by their text, then the end of the input.
-/

namespace SourceDiagnostics

/-- Something that a parser met, or could have gone on with. -/
inductive Item where
  /-- A text of the input, character for character. -/
  | literal (text : String)
  /-- Something that is called by a name. -/
  | label (name : String)
  | endOfInput
  deriving DecidableEq, Repr

namespace Item

/-- The place of the kind of item in the order of items. -/
def rank : Item → Nat
  | .literal _ => 0
  | .label _ => 1
  | .endOfInput => 2

/-- The text by which items of one kind are ordered. -/
def sortText : Item → String
  | .literal text => text
  | .label name => name
  | .endOfInput => ""

instance : Ord Item where
  compare := compareLex (compareOn rank) (compareOn sortText)

instance : Std.TransOrd Item :=
  inferInstanceAs (Std.TransCmp (compareLex (compareOn rank) (compareOn sortText)))

instance : Std.LawfulEqOrd Item where
  eq_of_compare {a b} h := by
    have h : (compareLex (compareOn rank) (compareOn sortText)) a b = .eq := h
    simp only [compareLex, compareOn, Ordering.then_eq_eq, Std.compare_eq_iff_eq] at h
    cases a <;> cases b <;> simp_all [rank, sortText]

/-- The name of a character that would not show between quotes. -/
def blankName? (c : Char) : Option String :=
  if c = '\n' then some "newline"
  else if c = '\t' then some "tab"
  else if c = ' ' then some "space"
  else if c = '\r' then some "carriage return"
  else if c = '\x00' then some "null"
  else none

/-- A literal text for display: a single character by its name, or in single quotes as it is,
and a longer text in double quotes and escaped. -/
def literalText (repertoire : Text.Repertoire) (text : String) : String :=
  match text.toList with
  | [] => "empty input"
  | [c] => (blankName? c).getD (String.ofList [Text.singleQuote, c, Text.singleQuote])
  | _ => Text.quoteText repertoire text

/-- The item for display. -/
def toText : Item → String
  | .literal text => literalText .unicode text
  | .label name => name
  | .endOfInput => "end of input"

end Item

/-- A set of items; its list is in the order of items. -/
abbrev ItemSet := Std.ExtTreeSet Item

end SourceDiagnostics
