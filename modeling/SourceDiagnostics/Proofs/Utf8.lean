import SourceDiagnostics.Text.Utf8

/-!
# Characters and their bytes

The bytes that the library counts are those that a text holds. A character is one byte that
continues no other and then bytes that do, and only a line feed has the byte of a line feed, so
lines and characters can be counted among the bytes as well as among the characters.
-/

namespace SourceDiagnostics.Text

/-- The bytes of a text's characters are the bytes of the text. -/
theorem toByteArray_utf8 (text : String) : (utf8 text.toList).toByteArray = text.toByteArray := by
  rw [← String.utf8Encode_toList]
  rfl

/-- The bytes of a text's characters are as many as the text has. -/
theorem utf8Length_toList (text : String) : utf8Length text.toList = text.utf8ByteSize := by
  rw [← length_utf8, ← List.size_toByteArray, toByteArray_utf8, String.size_toByteArray]

/-- A text has as many bytes in UTF-8 as its size tells. -/
theorem length_utf8_toList (text : String) : (utf8 text.toList).length = text.utf8ByteSize := by
  rw [length_utf8, utf8Length_toList]

/-- Characters have bytes. -/
theorem utf8Length_pos {chars : List Char} (h : chars ≠ []) : 0 < utf8Length chars := by
  cases chars with
  | nil => exact absurd rfl h
  | cons c rest =>
    have := c.utf8Size_pos
    rw [utf8Length_cons]
    omega

/-- Characters at the front of a text are known by the number of their bytes. -/
theorem eq_of_utf8Length_eq {front back front' back' : List Char}
    (happend : front ++ back = front' ++ back') (hlength : utf8Length front = utf8Length front') :
    front = front' := by
  induction front generalizing front' with
  | nil =>
    by_cases hnil : front' = []
    · exact hnil.symm
    · have := utf8Length_pos hnil
      rw [utf8Length_nil] at hlength
      omega
  | cons c front ih =>
    cases front' with
    | nil =>
      have := c.utf8Size_pos
      rw [utf8Length_cons, utf8Length_nil] at hlength
      omega
    | cons d front' =>
      obtain ⟨rfl, hrest⟩ := List.cons.inj happend
      rw [utf8Length_cons, utf8Length_cons] at hlength
      rw [ih hrest (by omega)]

/-! ### The bytes of one character -/

/-- The bytes that continue a character are those from 80 to BF. -/
theorem isContinuation_iff {byte : UInt8} :
    isContinuation byte = true ↔ 0x80 ≤ byte.toNat ∧ byte.toNat < 0xC0 := by
  have h : ∀ n < 256, isContinuation (UInt8.ofNat n) = true ↔ 0x80 ≤ n ∧ n < 0xC0 := by
    decide +kernel
  simpa using h byte.toNat byte.toNat_lt

private theorem isContinuation_ofNat (n : Nat) : isContinuation (UInt8.ofNat (n % 64 + 0x80)) := by
  rw [isContinuation_iff, UInt8.toNat_ofNat']
  omega

private theorem not_isContinuation_ofNat {n : Nat} (h : n < 0x80 ∨ 0xC0 ≤ n ∧ n < 256) :
    isContinuation (UInt8.ofNat n) = false := by
  rw [← Bool.not_eq_true, isContinuation_iff, UInt8.toNat_ofNat']
  omega

private theorem ofNat_eq_lineFeed_iff {n : Nat} (h : n < 256) :
    UInt8.ofNat n = 0x0A ↔ n = 0x0A := by
  rw [← UInt8.toNat_inj, UInt8.toNat_ofNat', Nat.mod_eq_of_lt h]
  rfl

/-- The first byte of a character continues no other, and the bytes behind it continue it. -/
theorem utf8EncodeChar_eq_cons (c : Char) :
    ∃ lead tail, String.utf8EncodeChar c = lead :: tail ∧ isContinuation lead = false ∧
      (∀ byte ∈ tail, isContinuation byte = true) ∧ (lead = 0x0A ↔ c = '\n') := by
  have hc : c = '\n' ↔ c.val.toNat = 0x0A := by
    rw [← Char.toNat_inj]
    rfl
  fun_cases String.utf8EncodeChar c with
  | case1 v h =>
    refine ⟨_, _, rfl, not_isContinuation_ofNat (.inl (by omega)), by simp, ?_⟩
    rw [hc, ofNat_eq_lineFeed_iff (by omega)]
  | case2 v h h2 =>
    refine ⟨_, _, rfl, not_isContinuation_ofNat (.inr (by omega)), ?_, ?_⟩
    · simp only [List.mem_cons, List.not_mem_nil, or_false, forall_eq]
      exact isContinuation_ofNat _
    · rw [hc, ofNat_eq_lineFeed_iff (by omega)]
      omega
  | case3 v h h2 h3 =>
    refine ⟨_, _, rfl, not_isContinuation_ofNat (.inr (by omega)), ?_, ?_⟩
    · simp only [List.mem_cons, List.not_mem_nil, or_false, forall_eq_or_imp, forall_eq]
      exact ⟨isContinuation_ofNat _, isContinuation_ofNat _⟩
    · rw [hc, ofNat_eq_lineFeed_iff (by omega)]
      omega
  | case4 v h h2 h3 =>
    refine ⟨_, _, rfl, not_isContinuation_ofNat (.inr (by omega)), ?_, ?_⟩
    · simp only [List.mem_cons, List.not_mem_nil, or_false, forall_eq_or_imp, forall_eq]
      exact ⟨isContinuation_ofNat _, isContinuation_ofNat _, isContinuation_ofNat _⟩
    · rw [hc, ofNat_eq_lineFeed_iff (by omega)]
      omega

/-- Digits have one byte each, that of their code. -/
theorem utf8_digits {digits : List Char} (h : ∀ c ∈ digits, c.isDigit = true) :
    utf8 digits = digits.map (UInt8.ofNat ·.toNat) := by
  induction digits with
  | nil => rfl
  | cons c digits ih =>
    obtain ⟨hc, hdigits⟩ := List.forall_mem_cons.mp h
    have hsmall : c.val.toNat ≤ 127 :=
      Nat.le_trans (Char.isDigit_iff_toNat.mp hc).2 (by decide)
    rw [utf8_cons, ih hdigits, String.utf8EncodeChar, if_pos hsmall]
    rfl

end SourceDiagnostics.Text
