/-!
# Places in a text

A place is a line and a column, both counted from one. Places are ordered by line and, on
one line, by column.
-/

namespace SourceDiagnostics

/-- A line and a column. -/
structure Place where
  line : UInt32
  column : UInt32
  deriving DecidableEq, Repr

namespace Place

instance : Ord Place where
  compare a b := (compare a.line b.line).then (compare a.column b.column)

/-- The place as a pair in parentheses. -/
def toPairText (p : Place) : String :=
  "(" ++ toString p.line ++ ", " ++ toString p.column ++ ")"

/-- The place with a colon between line and column. -/
def toText (p : Place) : String := toString p.line ++ ":" ++ toString p.column

theorem compare_def (a b : Place) :
    compare a b = (compare a.line b.line).then (compare a.column b.column) := rfl

instance : Std.OrientedOrd Place where
  eq_swap {a b} := by
    simp only [compare_def, Ordering.swap_then]
    rw [Std.OrientedOrd.eq_swap (a := a.line), Std.OrientedOrd.eq_swap (a := a.column)]

instance : Std.LawfulEqOrd Place where
  compare_self := by simp
  eq_of_compare {a b} h := by
    simp only [compare_def, Ordering.then_eq_eq, Std.compare_eq_iff_eq] at h
    cases a; cases b; simp_all

/-- A place is at most another one exactly when it is on an earlier line, or on the same line
and not in a later column. -/
theorem isLE_compare_iff {a b : Place} :
    (compare a b).isLE = true ↔ a.line < b.line ∨ a.line = b.line ∧ a.column ≤ b.column := by
  rw [compare_def, Ordering.isLE_then_iff_or, Std.compare_eq_lt, Std.compare_eq_iff_eq,
    Std.isLE_compare]

end Place

end SourceDiagnostics
