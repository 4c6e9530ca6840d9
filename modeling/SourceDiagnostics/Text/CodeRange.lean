/-!
# Properties given by ranges of code points

A property of characters is a list of ranges: a character has the property when its
code point lies in one of them.
-/

namespace SourceDiagnostics.Text

/-- The code points from `first` up to and including `last`. -/
structure CodeRange where
  first : Nat
  last : Nat
  deriving DecidableEq, Repr

/-- Whether the code point of `c` lies in the range. -/
def CodeRange.contains (range : CodeRange) (c : Char) : Bool :=
  range.first ≤ c.toNat && c.toNat ≤ range.last

/-- Whether the code point of `c` lies in one of the ranges. -/
def inRanges (ranges : List CodeRange) (c : Char) : Bool :=
  ranges.any (·.contains c)

theorem CodeRange.contains_iff {range : CodeRange} {c : Char} :
    range.contains c = true ↔ range.first ≤ c.toNat ∧ c.toNat ≤ range.last := by
  simp [CodeRange.contains]

theorem inRanges_iff {ranges : List CodeRange} {c : Char} :
    inRanges ranges c = true ↔
      ∃ range ∈ ranges, range.first ≤ c.toNat ∧ c.toNat ≤ range.last := by
  simp [inRanges, CodeRange.contains_iff]

end SourceDiagnostics.Text
