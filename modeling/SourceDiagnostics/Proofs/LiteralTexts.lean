import SourceDiagnostics.Proofs.Json.Grammar
import SourceDiagnostics.Proofs.TextCuts

/-!
# Literal texts that read back

A literal text of the input is shown in one of four ways: by words if it is empty or a blank of its
own, in single quotes if it is another character, and in double quotes otherwise, where some
characters are escaped. It is read back here from the way it is shown. A reader needs to know
neither which characters count as printable nor which ones combine with others, as it undoes an
escape wherever it finds one.
-/

namespace SourceDiagnostics

open Text

namespace Json

/-! ### Hexadecimal digits -/

private theorem hexDigit?_digitChar : ∀ n < 16, hexDigit? (Nat.digitChar n) = some n := by
  decide

private theorem codeUnit?_append (digits : List Char) (digit : Char) :
    codeUnit? (digits ++ [digit]) =
      (codeUnit? digits).bind fun unit ↦ (hexDigit? digit).map (16 * unit + ·) := by
  simp [codeUnit?, List.foldlM_append]

/-- Hexadecimal digits stand for the number that they are written for, whatever its length. -/
theorem codeUnit?_toDigits (n : Nat) : codeUnit? (Nat.toDigits 16 n) = some n := by
  induction n using Nat.strongRecOn with
  | ind n ih =>
    rw [Nat.toDigits_eq_if (by decide)]
    split
    · next hn =>
      have hdigit := hexDigit?_digitChar n hn
      simp [codeUnit?, hdigit]
    · rw [codeUnit?_append, ih (n / 16) (by omega), Option.bind_some,
        hexDigit?_digitChar (n % 16) (by omega), Option.map_some]
      congr 1
      omega

end Json

namespace Text

/-! ### Characters of a quoted text -/

/-- The character that a backslash and one mark stand for. -/
def ofMark? (mark : Char) : Option Char :=
  if mark = '0' then some '\x00'
  else if mark = 't' then some '\t'
  else if mark = 'r' then some '\r'
  else if mark = 'n' then some '\n'
  else if mark ∈ ['\\', singleQuote, doubleQuote] then some mark
  else none

/-- Reads a character, escaped or not, and leaves what follows it. -/
def readChar? : List Char → Option (Char × List Char)
  | [] => none
  | '\\' :: 'u' :: '\x7b' :: rest => do
    let (digits, behind) ← cutAtFirst? '\x7d' rest
    return (Char.ofNat (← Json.codeUnit? digits), behind)
  | '\\' :: mark :: rest => do return (← ofMark? mark, rest)
  | c :: rest => some (c, rest)

/-- Reading a character takes something away. -/
theorem length_lt_of_readChar? {chars rest : List Char} {c : Char}
    (h : readChar? chars = some (c, rest)) : rest.length < chars.length := by
  fun_cases readChar? chars with
  | case1 => cases h
  | case2 behind =>
    simp only [readChar?, Option.bind_eq_bind, Option.bind_eq_some_iff, Option.pure_def,
      Option.some.injEq] at h
    obtain ⟨⟨digits, after⟩, hcut, n, -, hread⟩ := h
    obtain ⟨rfl, -⟩ := cutAtFirst?_eq_some_iff.mp hcut
    cases hread
    simp only [List.length_cons, List.length_append]
    omega
  | case3 mark behind =>
    simp only [readChar?, Option.bind_eq_bind, Option.bind_eq_some_iff, Option.pure_def,
      Option.some.injEq] at h
    obtain ⟨d, -, hread⟩ := h
    cases hread
    simp only [List.length_cons]
    omega
  | case4 d behind =>
    simp only [readChar?] at h
    cases h
    simp

/-- Reads characters, escaped or not, up to the end. -/
def readChars? (chars : List Char) : Option (List Char) :=
  if chars = [] then some []
  else
    match _ : readChar? chars with
    | none => none
    | some (c, rest) => (readChars? rest).map (c :: ·)
termination_by chars.length
decreasing_by exact length_lt_of_readChar? ‹_›

theorem readChars?_nil : readChars? [] = some [] := by
  rw [readChars?, if_pos rfl]

theorem readChars?_of_readChar? {chars rest : List Char} {c : Char}
    (h : readChar? chars = some (c, rest)) :
    readChars? chars = (readChars? rest).map (c :: ·) := by
  have hne : chars ≠ [] := by
    rintro rfl
    cases h
  rw [readChars?, if_neg hne]
  split
  · next hnone =>
    rw [h] at hnone
    cases hnone
  · next hsome =>
    rw [h] at hsome
    cases hsome
    rfl

private theorem brace_not_mem_toDigits (n : Nat) : '\x7d' ∉ Nat.toDigits 16 n := by
  intro h
  exact forall_mem_toDigits (· ≠ '\x7d') (by decide) n '\x7d' h rfl

private theorem readChar?_escapeCodePoint (c : Char) (rest : List Char) :
    readChar? (escapeCodePoint c ++ rest) = some (c, rest) := by
  have hcut : cutAtFirst? '\x7d' (Nat.toDigits 16 c.toNat ++ ['\x7d'] ++ rest) =
      some (Nat.toDigits 16 c.toNat, rest) := by
    rw [List.append_assoc]
    exact cutAtFirst?_append rest (brace_not_mem_toDigits c.toNat)
  simp only [escapeCodePoint, List.cons_append, readChar?, hcut, Option.bind_eq_bind,
    Option.bind_some, Json.codeUnit?_toDigits, Char.ofNat_toNat, Option.pure_def]

/-- A character is read back from the way it is written, whatever the repertoire, the place where it
stands and the characters behind it. -/
theorem readChar?_escapeChar (repertoire : Repertoire) {quotes : List Char}
    (hquotes : quotes ⊆ [singleQuote, doubleQuote]) (atStart : Bool) (c : Char)
    (rest : List Char) :
    readChar? (escapeChar repertoire quotes atStart c ++ rest) = some (c, rest) := by
  fun_cases escapeChar repertoire quotes atStart c with
  | case1 | case2 | case3 | case4 =>
    subst_vars
    rfl
  | case5 _ _ _ _ hmark =>
    have hmem : c ∈ ['\\', singleQuote, doubleQuote] := by
      rcases hmark with rfl | hquote
      · exact List.mem_cons_self
      · exact List.mem_cons_of_mem _ (hquotes hquote)
    simp only [List.mem_cons, List.not_mem_nil, or_false] at hmem
    rcases hmem with rfl | rfl | rfl <;> rfl
  | case6 _ _ _ _ hmark =>
    have hbackslash : c ≠ '\\' := fun hc ↦ hmark (.inl hc)
    rw [List.singleton_append, readChar?]
    · exact fun _ hc _ ↦ hbackslash hc
    · exact fun _ _ hc _ ↦ hbackslash hc
  | case7 => exact readChar?_escapeCodePoint c rest

/-- The inside of a quoted text reads back as the text. -/
theorem readChars?_escapeChars (repertoire : Repertoire) (chars : List Char) :
    readChars? (escapeChars repertoire chars) = some chars := by
  have hothers (others : List Char) :
      readChars? (others.flatMap (escapeChar repertoire [singleQuote, doubleQuote] false)) =
        some others := by
    induction others with
    | nil => exact readChars?_nil
    | cons c others ih =>
      rw [List.flatMap_cons, readChars?_of_readChar?
        (readChar?_escapeChar repertoire (List.Subset.refl _) false c _), ih, Option.map_some]
  cases chars with
  | nil => exact readChars?_nil
  | cons c rest =>
    rw [escapeChars, readChars?_of_readChar?
      (readChar?_escapeChar repertoire (List.Subset.refl _) true c _), hothers, Option.map_some]

end Text

namespace Item

/-! ### Literal texts -/

/-- The blank that has the name. -/
def blankNamed? (name : String) : Option Char :=
  ['\n', '\t', ' ', '\r', '\x00'].find? (blankName? · == some name)

/-- The literal text that is shown in the given way. -/
def readLiteral? (shown : String) : Option String :=
  match shown.toList with
  | ['\x27', c, '\x27'] => some (String.singleton c)
  | '\x22' :: rest => (readChars? rest.dropLast).map String.ofList
  | _ => if shown = "empty input" then some "" else (blankNamed? shown).map String.singleton

private theorem readLiteral?_blankName {c : Char} {name : String} (h : blankName? c = some name) :
    readLiteral? name = some (String.singleton c) := by
  revert h
  fun_cases blankName? c with
  | case1 | case2 | case3 | case4 | case5 =>
    subst_vars
    rintro ⟨⟩
    decide
  | case6 =>
    intro h
    cases h

private theorem readLiteral?_singleQuoted (c : Char) :
    readLiteral? (String.ofList [singleQuote, c, singleQuote]) = some (String.singleton c) := by
  rw [readLiteral?, String.toList_ofList]
  rfl

private theorem readLiteral?_quoteText (repertoire : Repertoire) (text : String) :
    readLiteral? (quoteText repertoire text) = some text := by
  have hread := readChars?_escapeChars repertoire text.toList
  rw [readLiteral?, quoteText, String.toList_ofList]
  simp only [doubleQuote, List.cons_append, List.dropLast_concat, hread, Option.map_some,
    String.ofList_toList]

/-- A literal text reads back from the way it is shown. -/
theorem readLiteral?_literalText (repertoire : Repertoire) (text : String) :
    readLiteral? (literalText repertoire text) = some text := by
  rw [literalText]
  split
  · next hnil =>
    rw [String.toList_eq_nil_iff.mp hnil]
    decide
  · next c hchar =>
    have htext : String.singleton c = text := by
      rw [← String.toList_inj, hchar, String.toList_singleton]
    cases hname : blankName? c with
    | some name => rw [Option.getD_some, readLiteral?_blankName hname, htext]
    | none => rw [Option.getD_none, readLiteral?_singleQuoted, htext]
  · exact readLiteral?_quoteText repertoire text

/-- Every literal text reads back from the way it is shown, whichever characters are taken to be
printable or to combine with others. So no two literal texts are shown alike. -/
theorem literalText_readsBack (repertoire : Repertoire) :
    (∀ text, readLiteral? (literalText repertoire text) = some text) ∧
      (∀ first second, literalText repertoire first = literalText repertoire second ↔
        first = second) ∧
      ∀ first second, (literal first).toText = (literal second).toText ↔ first = second := by
  have hinj (repertoire : Repertoire) (first second : String) :
      literalText repertoire first = literalText repertoire second ↔ first = second := by
    refine ⟨fun h ↦ ?_, congrArg _⟩
    have hread := readLiteral?_literalText repertoire first
    rw [h, readLiteral?_literalText] at hread
    exact (Option.some.inj hread).symm
  exact ⟨readLiteral?_literalText repertoire, hinj repertoire, hinj .unicode⟩

end Item

end SourceDiagnostics
