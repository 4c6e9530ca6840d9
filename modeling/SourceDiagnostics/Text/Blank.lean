import SourceDiagnostics.Text.CodeRange

/-!
# Blanks

Characters that separate words: those with the Unicode property White_Space.
-/

namespace SourceDiagnostics.Text

/-- The code points with the property White_Space. -/
def blankRanges : List CodeRange :=
  [⟨0x0009, 0x000D⟩, ⟨0x0020, 0x0020⟩, ⟨0x0085, 0x0085⟩, ⟨0x00A0, 0x00A0⟩, ⟨0x1680, 0x1680⟩,
    ⟨0x2000, 0x200A⟩, ⟨0x2028, 0x2029⟩, ⟨0x202F, 0x202F⟩, ⟨0x205F, 0x205F⟩, ⟨0x3000, 0x3000⟩]

/-- Whether `c` separates words. -/
def isBlank (c : Char) : Bool := inRanges blankRanges c

/-- Every blank of ASCII, as the core library knows it, is a blank here. -/
theorem isBlank_of_isWhitespace {c : Char} (h : c.isWhitespace = true) : isBlank c = true := by
  simp only [Char.isWhitespace, Bool.or_eq_true, decide_eq_true_eq] at h
  rcases h with ((rfl | rfl) | rfl) | rfl <;> decide

/-- No ASCII digit is a blank. -/
theorem isBlank_eq_false_of_isDigit {c : Char} (h : c.isDigit = true) : isBlank c = false := by
  have hc : 48 ≤ c.toNat ∧ c.toNat ≤ 57 := by
    simpa [Char.isDigit, UInt32.le_iff_toNat_le] using h
  rw [← Bool.not_eq_true, isBlank, inRanges_iff]
  simp only [blankRanges, List.mem_cons, List.not_mem_nil, or_false]
  rintro ⟨_, h, _⟩
  rcases h with rfl | rfl | rfl | rfl | rfl | rfl | rfl | rfl | rfl | rfl <;> simp_all <;> omega

end SourceDiagnostics.Text
