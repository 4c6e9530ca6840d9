import Mathlib.Data.String.Basic
import SourceDiagnostics.Proofs.Utf8

/-!
# The order of texts and of their bytes

Texts are ordered by their characters, and these by their code points. It comes to the same to
order texts by their bytes, as the first bytes in which two characters differ are in the order of
the characters, and no character begins with the bytes of another one.
-/

namespace SourceDiagnostics.Text

private theorem ofNat_lt_ofNat_iff {n k : Nat} (hn : n < 256) (hk : k < 256) :
    UInt8.ofNat n < UInt8.ofNat k ↔ n < k := by
  rw [UInt8.lt_iff_toNat_lt, UInt8.toNat_ofNat', UInt8.toNat_ofNat', Nat.mod_eq_of_lt hn,
    Nat.mod_eq_of_lt hk]

private theorem ofNat_eq_ofNat_iff {n k : Nat} (hn : n < 256) (hk : k < 256) :
    UInt8.ofNat n = UInt8.ofNat k ↔ n = k := by
  rw [← UInt8.toNat_inj, UInt8.toNat_ofNat', UInt8.toNat_ofNat', Nat.mod_eq_of_lt hn,
    Nat.mod_eq_of_lt hk]

/-- Of two numbers to base 64 the smaller one is smaller without its last digit, or else only its
last digit is. -/
private theorem div_lt_div_or_mod_lt_mod {n k : Nat} (h : n < k) :
    n / 64 < k / 64 ∨ n / 64 = k / 64 ∧ n % 64 < k % 64 := by
  omega

/-- The bytes of the smaller of two characters come first, whatever follows them. -/
theorem utf8EncodeChar_append_lt {c d : Char} (h : c < d) (front back : List UInt8) :
    String.utf8EncodeChar c ++ front < String.utf8EncodeChar d ++ back := by
  have hlt : c.val.toNat < d.val.toNat := h
  have hd : d.val.toNat < 0x110000 := by
    rcases d.valid with hv | hv <;> omega
  -- The bytes behind the first one are digits to base 64, taken off here from the last one on.
  have hlast := div_lt_div_or_mod_lt_mod hlt
  have hmiddle := @div_lt_div_or_mod_lt_mod (c.val.toNat / 64) (d.val.toNat / 64)
  have hfirst := @div_lt_div_or_mod_lt_mod (c.val.toNat / 64 / 64) (d.val.toNat / 64 / 64)
  have htwo (n : Nat) : n / 4096 = n / 64 / 64 := (Nat.div_div_eq_div_mul n 64 64).symm
  have hthree (n : Nat) : n / 262144 = n / 64 / 64 / 64 := by
    rw [Nat.div_div_eq_div_mul, Nat.div_div_eq_div_mul]
  fun_cases String.utf8EncodeChar c <;> fun_cases String.utf8EncodeChar d <;>
    simp (disch := omega) only [List.cons_append, List.nil_append, List.cons_lt_cons_iff,
      ofNat_lt_ofNat_iff, ofNat_eq_ofNat_iff, htwo, hthree] <;>
    omega

/-- The bytes of characters are in the order of the characters. -/
theorem utf8_lt_utf8 {front back : List Char} (h : front < back) : utf8 front < utf8 back := by
  induction front generalizing back with
  | nil =>
    cases back with
    | nil => exact absurd h (List.lt_irrefl [])
    | cons d back =>
      obtain ⟨lead, tail, hd, -⟩ := utf8EncodeChar_eq_cons d
      rw [utf8_nil, utf8_cons, hd]
      exact List.nil_lt_cons _ _
  | cons c front ih =>
    cases back with
    | nil => exact absurd h (List.not_lt_nil _)
    | cons d back =>
      rw [utf8_cons, utf8_cons]
      rcases List.cons_lt_cons_iff.mp h with hlt | ⟨rfl, hlt⟩
      · exact utf8EncodeChar_append_lt hlt _ _
      · exact List.append_left_lt (ih hlt)

/-- Texts are in the order of their bytes. -/
theorem lt_iff_utf8_lt {first second : String} :
    first < second ↔ utf8 first.toList < utf8 second.toList := by
  refine ⟨fun h ↦ utf8_lt_utf8 (String.lt_iff_toList_lt.mp h), fun h ↦ ?_⟩
  rcases lt_trichotomy first second with hlt | rfl | hgt
  · exact hlt
  · exact absurd h (List.lt_irrefl _)
  · exact absurd h (List.lt_asymm (utf8_lt_utf8 (String.lt_iff_toList_lt.mp hgt)))

/-- To be first by a rank, then by a text, is to be first by the rank, then by the bytes. -/
theorem compare_then_eq_lt_iff {m n : Nat} {first second : String} :
    (compare m n).then (compare first second) = .lt ↔
      m < n ∨ m = n ∧ utf8 first.toList < utf8 second.toList := by
  rw [Ordering.then_eq_lt, Nat.compare_eq_lt, Std.compare_eq_iff_eq, compare_lt_iff_lt,
    lt_iff_utf8_lt]

end SourceDiagnostics.Text
