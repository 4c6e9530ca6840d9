import SourceDiagnostics.Text.Unassigned

/-!
# Printable characters

A character is printable when it shows as a mark of its own or as the plain space. The
others are control characters, invisible format characters, separators but for the plain
space, code points for private use, unassigned code points and the characters that a
display may leave out, such as fillers, joiners and variation selectors.
-/

namespace SourceDiagnostics.Text

/-- The control characters, general category Cc. -/
def controlRanges : List CodeRange :=
  [⟨0x0000, 0x001F⟩, ⟨0x007F, 0x009F⟩]

/-- The invisible format characters, general category Cf. -/
def formatRanges : List CodeRange :=
  [⟨0x00AD, 0x00AD⟩, ⟨0x0600, 0x0605⟩, ⟨0x061C, 0x061C⟩, ⟨0x06DD, 0x06DD⟩, ⟨0x070F, 0x070F⟩,
    ⟨0x0890, 0x0891⟩, ⟨0x08E2, 0x08E2⟩, ⟨0x180E, 0x180E⟩, ⟨0x200B, 0x200F⟩, ⟨0x202A, 0x202E⟩,
    ⟨0x2060, 0x2064⟩, ⟨0x2066, 0x206F⟩, ⟨0xFEFF, 0xFEFF⟩, ⟨0xFFF9, 0xFFFB⟩, ⟨0x110BD, 0x110BD⟩,
    ⟨0x110CD, 0x110CD⟩, ⟨0x13430, 0x1343F⟩, ⟨0x1BCA0, 0x1BCA3⟩, ⟨0x1D173, 0x1D17A⟩,
    ⟨0xE0001, 0xE0001⟩, ⟨0xE0020, 0xE007F⟩]

/-- The separators but for the plain space, general categories Zs, Zl and Zp. -/
def separatorRanges : List CodeRange :=
  [⟨0x00A0, 0x00A0⟩, ⟨0x1680, 0x1680⟩, ⟨0x2000, 0x200A⟩, ⟨0x2028, 0x2028⟩, ⟨0x2029, 0x2029⟩,
    ⟨0x202F, 0x202F⟩, ⟨0x205F, 0x205F⟩, ⟨0x3000, 0x3000⟩]

/-- The code points for private use, general category Co. -/
def privateRanges : List CodeRange :=
  [⟨0xE000, 0xF8FF⟩, ⟨0xF0000, 0xFFFFD⟩, ⟨0x100000, 0x10FFFD⟩]

/-- The characters that show as nothing where a display does not support them, property
Default_Ignorable_Code_Point. -/
def ignorableRanges : List CodeRange :=
  [⟨0x00AD, 0x00AD⟩, ⟨0x034F, 0x034F⟩, ⟨0x061C, 0x061C⟩, ⟨0x115F, 0x1160⟩, ⟨0x17B4, 0x17B5⟩,
    ⟨0x180B, 0x180F⟩, ⟨0x200B, 0x200F⟩, ⟨0x202A, 0x202E⟩, ⟨0x2060, 0x206F⟩, ⟨0x3164, 0x3164⟩,
    ⟨0xFE00, 0xFE0F⟩, ⟨0xFEFF, 0xFEFF⟩, ⟨0xFFA0, 0xFFA0⟩, ⟨0xFFF0, 0xFFF8⟩, ⟨0x1BCA0, 0x1BCA3⟩,
    ⟨0x1D173, 0x1D17A⟩, ⟨0xE0000, 0xE0FFF⟩]

/-- Whether `c` is a control character. -/
def isControl (c : Char) : Bool := inRanges controlRanges c

/-- Whether `c` shows as a mark of its own or is the plain space. -/
def isPrintable (c : Char) : Bool :=
  !(isControl c || inRanges formatRanges c || inRanges separatorRanges c ||
    inRanges privateRanges c || inRanges ignorableRanges c || isUnassigned c)

theorem isControl_iff {c : Char} :
    isControl c = true ↔ c.toNat ≤ 0x1F ∨ 0x7F ≤ c.toNat ∧ c.toNat ≤ 0x9F := by
  simp [isControl, inRanges_iff, controlRanges]

/-- No control character is printable. -/
theorem isPrintable_eq_false_of_isControl {c : Char} (h : isControl c = true) :
    isPrintable c = false := by
  simp [isPrintable, h]

end SourceDiagnostics.Text
