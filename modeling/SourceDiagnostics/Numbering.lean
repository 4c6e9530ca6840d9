/-!
# Line and column numbers

Lines and columns are counted from one in 32 bits. A count that does not fit is narrowed to
the number before the greatest one, which leaves room for the step from a count of what
comes before to the number of what follows.
-/

namespace SourceDiagnostics

namespace Numbering

/-- The greatest line or column number. -/
def greatest : UInt32 := 0xFFFFFFFF

/-- The count in 32 bits; one that does not fit becomes the number before the greatest. -/
def narrow (count : Nat) : UInt32 :=
  if count < UInt32.size then UInt32.ofNat count else greatest - 1

/-- The number after `n`, or `none` at the greatest one. -/
def next? (n : UInt32) : Option UInt32 :=
  if n = greatest then none else some (n + 1)

/-- The number after `n`, where nothing comes after the greatest one. -/
def nextOrGreatest (n : UInt32) : UInt32 :=
  if n = greatest then greatest else n + 1

theorem toNat_narrow (count : Nat) :
    (narrow count).toNat = if count < UInt32.size then count else UInt32.size - 2 := by
  unfold narrow
  split
  · next h => exact UInt32.toNat_ofNat_of_lt' h
  · rfl

theorem toNat_nextOrGreatest (n : UInt32) :
    (nextOrGreatest n).toNat = min (n.toNat + 1) (UInt32.size - 1) := by
  have hn := n.toNat_lt_size
  unfold nextOrGreatest
  split
  · subst n; decide
  · next h =>
    have hne : n.toNat ≠ UInt32.size - 1 := fun he ↦ h (UInt32.toNat_inj.mp he)
    have hone : (1 : UInt32).toNat = 1 := rfl
    rw [UInt32.toNat_add, hone]
    simp only [UInt32.size] at hn hne ⊢
    omega

/-- A number is shown in decimal, with no zeros in front. -/
theorem toList_toString (n : UInt32) : (toString n).toList = Nat.toDigits 10 n.toNat :=
  Nat.toList_repr

end Numbering

end SourceDiagnostics
