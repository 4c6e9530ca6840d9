import Mathlib.Algebra.Field.Rat
import SourceDiagnostics.Proofs.Words

/-!
# The grammar of JSON

What a text in JSON stands for, by the rules of RFC 8259. Each relation reads something from the
front of some characters and leaves the rest. Digits and blanks are read as far as they go, which
takes no document away, as nothing but a comma or a closing bracket follows a value. A string has
a value only where its surrogates come in pairs.

No text stands for two values: that is `Document.unique`.
-/

namespace SourceDiagnostics.Json

open Text

/-- What a text can stand for. -/
inductive Value where
  | null
  | bool (truth : Bool)
  | number (value : ℚ)
  | string (text : String)
  | array (elements : List Value)
  /-- The members with their names, in the order in which they stand. -/
  | object (members : List (String × Value))

/-- What is left behind spaces, tabs, line feeds and carriage returns. -/
def skipBlanks (chars : List Char) : List Char := chars.dropWhile Char.isWhitespace

/-! ### Numbers -/

/-- One digit or more, and what follows the last of them. -/
structure ReadsDigits (chars digits rest : List Char) : Prop where
  split : chars = digits ++ rest
  nonempty : digits ≠ []
  isDigit : ∀ c ∈ digits, c.isDigit = true
  stop : ∀ c ∈ rest.head?, c.isDigit = false

/-- The whole part of a number, which has no zero in front of other digits. -/
inductive ReadsWhole : List Char → Nat → List Char → Prop
  | intro {chars digits rest : List Char} (h : ReadsDigits chars digits rest)
      (hzero : digits.head? = some '0' → digits = ['0']) :
    ReadsWhole chars (Nat.ofDigitChars 10 digits 0) rest

/-- The fraction of a number, if it has one. -/
inductive ReadsFraction : List Char → ℚ → List Char → Prop
  | absent {rest : List Char} (h : rest.head? ≠ some '.') : ReadsFraction rest 0 rest
  | present {chars digits rest : List Char} (h : ReadsDigits chars digits rest) :
    ReadsFraction ('.' :: chars) (Nat.ofDigitChars 10 digits 0 / 10 ^ digits.length) rest

/-- The exponent of a number, if it has one. -/
inductive ReadsExponent : List Char → ℤ → List Char → Prop
  | absent {rest : List Char} (h : ∀ c ∈ rest.head?, c ≠ 'e' ∧ c ≠ 'E') : ReadsExponent rest 0 rest
  | unsigned {mark : Char} {chars digits rest : List Char} (hmark : mark = 'e' ∨ mark = 'E')
      (h : ReadsDigits chars digits rest) :
    ReadsExponent (mark :: chars) (Nat.ofDigitChars 10 digits 0) rest
  | plus {mark : Char} {chars digits rest : List Char} (hmark : mark = 'e' ∨ mark = 'E')
      (h : ReadsDigits chars digits rest) :
    ReadsExponent (mark :: '+' :: chars) (Nat.ofDigitChars 10 digits 0) rest
  | minus {mark : Char} {chars digits rest : List Char} (hmark : mark = 'e' ∨ mark = 'E')
      (h : ReadsDigits chars digits rest) :
    ReadsExponent (mark :: '-' :: chars) (-Nat.ofDigitChars 10 digits 0) rest

/-- A number without its sign. -/
inductive ReadsUnsigned : List Char → ℚ → List Char → Prop
  | intro {chars behindWhole behindFraction rest : List Char} {whole : Nat} {fraction : ℚ}
      {exponent : ℤ} (hwhole : ReadsWhole chars whole behindWhole)
      (hfraction : ReadsFraction behindWhole fraction behindFraction)
      (hexponent : ReadsExponent behindFraction exponent rest) :
    ReadsUnsigned chars ((whole + fraction) * 10 ^ exponent) rest

/-- A number. -/
inductive ReadsNumber : List Char → ℚ → List Char → Prop
  | plain {chars rest : List Char} {value : ℚ} (h : ReadsUnsigned chars value rest) :
    ReadsNumber chars value rest
  | minus {chars rest : List Char} {value : ℚ} (h : ReadsUnsigned chars value rest) :
    ReadsNumber ('-' :: chars) (-value) rest

/-! ### Strings -/

/-- The character that a backslash and one other character stand for. -/
def shortEscape? : Char → Option Char
  | '\x22' => some '\x22'
  | '\\' => some '\\'
  | '/' => some '/'
  | 'b' => some '\x08'
  | 'f' => some '\x0C'
  | 'n' => some '\n'
  | 'r' => some '\r'
  | 't' => some '\t'
  | _ => none

/-- The value of a hexadecimal digit. -/
def hexDigit? (c : Char) : Option Nat :=
  if c.isDigit then some (c.toNat - '0'.toNat)
  else if 'a' ≤ c ∧ c ≤ 'f' then some (c.toNat - 'a'.toNat + 10)
  else if 'A' ≤ c ∧ c ≤ 'F' then some (c.toNat - 'A'.toNat + 10)
  else none

/-- The code unit that hexadecimal digits stand for. -/
def codeUnit? (digits : List Char) : Option Nat :=
  digits.foldlM (fun unit digit ↦ (hexDigit? digit).map (16 * unit + ·)) 0

/-- Whether a code unit is the first of a pair. -/
def IsHighSurrogate (unit : Nat) : Prop := 0xD800 ≤ unit ∧ unit < 0xDC00

/-- Whether a code unit is the second of a pair. -/
def IsLowSurrogate (unit : Nat) : Prop := 0xDC00 ≤ unit ∧ unit < 0xE000

/-- The characters of a string, up to its closing quote. -/
inductive ReadsChars : List Char → List Char → List Char → Prop
  | close {rest : List Char} : ReadsChars ('\x22' :: rest) [] rest
  | plain {c : Char} {text chars rest : List Char} (hcontrol : 0x20 ≤ c.toNat) (hquote : c ≠ '\x22')
      (hbackslash : c ≠ '\\') (h : ReadsChars text chars rest) :
    ReadsChars (c :: text) (c :: chars) rest
  | short {mark c : Char} {text chars rest : List Char} (hmark : shortEscape? mark = some c)
      (h : ReadsChars text chars rest) :
    ReadsChars ('\\' :: mark :: text) (c :: chars) rest
  | unit {a b c d : Char} {text chars rest : List Char} {unit : Nat}
      (hunit : codeUnit? [a, b, c, d] = some unit) (hhigh : ¬IsHighSurrogate unit)
      (hlow : ¬IsLowSurrogate unit) (h : ReadsChars text chars rest) :
    ReadsChars ('\\' :: 'u' :: a :: b :: c :: d :: text) (Char.ofNat unit :: chars) rest
  | pair {a b c d e f g i : Char} {text chars rest : List Char} {high low : Nat}
      (hfirst : codeUnit? [a, b, c, d] = some high) (hsecond : codeUnit? [e, f, g, i] = some low)
      (hhigh : IsHighSurrogate high) (hlow : IsLowSurrogate low) (h : ReadsChars text chars rest) :
    ReadsChars
      ('\\' :: 'u' :: a :: b :: c :: d :: '\\' :: 'u' :: e :: f :: g :: i :: text)
      (Char.ofNat (0x10000 + (high - 0xD800) * 0x400 + (low - 0xDC00)) :: chars) rest

/-! ### Values -/

mutual

/-- A value. -/
inductive ReadsValue : List Char → Value → List Char → Prop
  | null {rest : List Char} : ReadsValue ('n' :: 'u' :: 'l' :: 'l' :: rest) .null rest
  | truth {rest : List Char} : ReadsValue ('t' :: 'r' :: 'u' :: 'e' :: rest) (.bool true) rest
  | falsity {rest : List Char} :
    ReadsValue ('f' :: 'a' :: 'l' :: 's' :: 'e' :: rest) (.bool false) rest
  | number {chars rest : List Char} {value : ℚ} (h : ReadsNumber chars value rest) :
    ReadsValue chars (.number value) rest
  | string {text chars rest : List Char} (h : ReadsChars text chars rest) :
    ReadsValue ('\x22' :: text) (.string (.ofList chars)) rest
  | emptyArray {chars rest : List Char} (h : skipBlanks chars = ']' :: rest) :
    ReadsValue ('[' :: chars) (.array []) rest
  | array {chars rest : List Char} {elements : List Value}
      (h : ReadsElements chars elements rest) :
    ReadsValue ('[' :: chars) (.array elements) rest
  | emptyObject {chars rest : List Char} (h : skipBlanks chars = '\x7d' :: rest) :
    ReadsValue ('\x7b' :: chars) (.object []) rest
  | object {chars rest : List Char} {members : List (String × Value)}
      (h : ReadsMembers chars members rest) :
    ReadsValue ('\x7b' :: chars) (.object members) rest

/-- The elements of an array that has some, up to its closing bracket. -/
inductive ReadsElements : List Char → List Value → List Char → Prop
  | last {chars behind rest : List Char} {value : Value}
      (hvalue : ReadsValue (skipBlanks chars) value behind)
      (hclose : skipBlanks behind = ']' :: rest) :
    ReadsElements chars [value] rest
  | next {chars behind others rest : List Char} {value : Value} {values : List Value}
      (hvalue : ReadsValue (skipBlanks chars) value behind)
      (hcomma : skipBlanks behind = ',' :: others) (hothers : ReadsElements others values rest) :
    ReadsElements chars (value :: values) rest

/-- A member of an object: its name, a colon and its value. -/
inductive ReadsMember : List Char → String × Value → List Char → Prop
  | intro {chars text name gap after rest : List Char} {value : Value}
      (hopen : skipBlanks chars = '\x22' :: text) (hname : ReadsChars text name gap)
      (hcolon : skipBlanks gap = ':' :: after) (hvalue : ReadsValue (skipBlanks after) value rest) :
    ReadsMember chars (.ofList name, value) rest

/-- The members of an object that has some, up to its closing brace. -/
inductive ReadsMembers : List Char → List (String × Value) → List Char → Prop
  | last {chars behind rest : List Char} {member : String × Value}
      (hmember : ReadsMember chars member behind) (hclose : skipBlanks behind = '\x7d' :: rest) :
    ReadsMembers chars [member] rest
  | next {chars behind others rest : List Char} {member : String × Value}
      {members : List (String × Value)} (hmember : ReadsMember chars member behind)
      (hcomma : skipBlanks behind = ',' :: others) (hothers : ReadsMembers others members rest) :
    ReadsMembers chars (member :: members) rest

end

/-- A text that stands for a value, with nothing around it but blanks. -/
def Document (text : String) (value : Value) : Prop :=
  ∃ rest, ReadsValue (skipBlanks text.toList) value rest ∧ skipBlanks rest = []

/-! ### No text stands for two values -/

/-- Digits begin with a digit. -/
theorem ReadsDigits.head {c : Char} {chars digits rest : List Char}
    (h : ReadsDigits (c :: chars) digits rest) : c.isDigit = true := by
  obtain ⟨d, ds, rfl⟩ := List.exists_cons_of_ne_nil h.nonempty
  obtain ⟨rfl, -⟩ := List.cons.inj h.split
  exact h.isDigit c List.mem_cons_self

theorem ReadsDigits.unique {chars digits digits' rest rest' : List Char}
    (h : ReadsDigits chars digits rest) (h' : ReadsDigits chars digits' rest') :
    digits = digits' ∧ rest = rest' := by
  have htake := takeWhile_append_of_stop h.isDigit h.stop
  have htake' := takeWhile_append_of_stop h'.isDigit h'.stop
  rw [← h.split] at htake
  rw [← h'.split, htake] at htake'
  subst htake'
  exact ⟨rfl, List.append_cancel_left (h.split.symm.trans h'.split)⟩

theorem ReadsWhole.unique {chars rest rest' : List Char} {whole whole' : Nat}
    (h : ReadsWhole chars whole rest) (h' : ReadsWhole chars whole' rest') :
    whole = whole' ∧ rest = rest' := by
  cases h with
  | intro h hzero =>
  cases h' with
  | intro h' hzero' =>
  obtain ⟨rfl, rfl⟩ := h.unique h'
  exact ⟨rfl, rfl⟩

theorem ReadsFraction.unique {chars rest rest' : List Char} {fraction fraction' : ℚ}
    (h : ReadsFraction chars fraction rest) (h' : ReadsFraction chars fraction' rest') :
    fraction = fraction' ∧ rest = rest' := by
  cases h with
  | absent h =>
    cases h' with
    | absent => exact ⟨rfl, rfl⟩
    | present => exact absurd rfl h
  | present h =>
    cases h' with
    | absent h' => exact absurd rfl h'
    | present h' =>
      obtain ⟨rfl, rfl⟩ := h.unique h'
      exact ⟨rfl, rfl⟩

private theorem not_mark {mark : Char} (h : mark ≠ 'e' ∧ mark ≠ 'E') :
    ¬(mark = 'e' ∨ mark = 'E') := by
  rintro (he | he)
  · exact h.1 he
  · exact h.2 he

theorem ReadsExponent.unique {chars rest rest' : List Char} {exponent exponent' : ℤ}
    (h : ReadsExponent chars exponent rest) (h' : ReadsExponent chars exponent' rest') :
    exponent = exponent' ∧ rest = rest' := by
  cases h with
  | absent h =>
    cases h' with
    | absent => exact ⟨rfl, rfl⟩
    | unsigned hmark | plus hmark | minus hmark => exact absurd hmark (not_mark (h _ rfl))
  | unsigned hmark h =>
    cases h' with
    | absent h' => exact absurd hmark (not_mark (h' _ rfl))
    | unsigned _ h' =>
      obtain ⟨rfl, rfl⟩ := h.unique h'
      exact ⟨rfl, rfl⟩
    | plus | minus => exact absurd h.head (by decide)
  | plus hmark h =>
    cases h' with
    | absent h' => exact absurd hmark (not_mark (h' _ rfl))
    | unsigned _ h' => exact absurd h'.head (by decide)
    | plus _ h' =>
      obtain ⟨rfl, rfl⟩ := h.unique h'
      exact ⟨rfl, rfl⟩
  | minus hmark h =>
    cases h' with
    | absent h' => exact absurd hmark (not_mark (h' _ rfl))
    | unsigned _ h' => exact absurd h'.head (by decide)
    | minus _ h' =>
      obtain ⟨rfl, rfl⟩ := h.unique h'
      exact ⟨rfl, rfl⟩

theorem ReadsUnsigned.unique {chars rest rest' : List Char} {value value' : ℚ}
    (h : ReadsUnsigned chars value rest) (h' : ReadsUnsigned chars value' rest') :
    value = value' ∧ rest = rest' := by
  cases h with
  | intro hwhole hfraction hexponent =>
  cases h' with
  | intro hwhole' hfraction' hexponent' =>
  obtain ⟨rfl, rfl⟩ := hwhole.unique hwhole'
  obtain ⟨rfl, rfl⟩ := hfraction.unique hfraction'
  obtain ⟨rfl, rfl⟩ := hexponent.unique hexponent'
  exact ⟨rfl, rfl⟩

/-- A number without its sign begins with a digit. -/
theorem ReadsUnsigned.head {c : Char} {chars rest : List Char} {value : ℚ}
    (h : ReadsUnsigned (c :: chars) value rest) : c.isDigit = true := by
  cases h with
  | intro hwhole =>
  cases hwhole with
  | intro hdigits => exact hdigits.head

/-- A number begins with a minus or a digit. -/
theorem ReadsNumber.head {c : Char} {chars rest : List Char} {value : ℚ}
    (h : ReadsNumber (c :: chars) value rest) : c = '-' ∨ c.isDigit = true := by
  cases h with
  | plain h => exact .inr h.head
  | minus h => exact .inl rfl

theorem ReadsNumber.unique {chars rest rest' : List Char} {value value' : ℚ}
    (h : ReadsNumber chars value rest) (h' : ReadsNumber chars value' rest') :
    value = value' ∧ rest = rest' := by
  cases h with
  | plain h =>
    cases h' with
    | plain h' => exact h.unique h'
    | minus h' => exact absurd h.head (by decide)
  | minus h =>
    cases h' with
    | plain h' => exact absurd h'.head (by decide)
    | minus h' =>
      obtain ⟨rfl, rfl⟩ := h.unique h'
      exact ⟨rfl, rfl⟩

theorem ReadsChars.unique {text chars chars' rest rest' : List Char}
    (h : ReadsChars text chars rest) (h' : ReadsChars text chars' rest') :
    chars = chars' ∧ rest = rest' := by
  induction h generalizing chars' with
  | close =>
    cases h' with
    | close => exact ⟨rfl, rfl⟩
    | plain _ hquote => exact absurd rfl hquote
  | plain _ hquote hbackslash _ ih =>
    cases h' with
    | close => exact absurd rfl hquote
    | plain _ _ _ h' =>
      obtain ⟨rfl, rfl⟩ := ih h'
      exact ⟨rfl, rfl⟩
    | short | unit | pair => exact absurd rfl hbackslash
  | short hmark _ ih =>
    cases h' with
    | plain _ _ hbackslash => exact absurd rfl hbackslash
    | short hmark' h' =>
      obtain rfl := Option.some.inj (hmark.symm.trans hmark')
      obtain ⟨rfl, rfl⟩ := ih h'
      exact ⟨rfl, rfl⟩
    | unit | pair => cases hmark
  | unit hunit hhigh _ _ ih =>
    cases h' with
    | plain _ _ hbackslash => exact absurd rfl hbackslash
    | short hmark' => cases hmark'
    | unit hunit' _ _ h' =>
      obtain rfl := Option.some.inj (hunit.symm.trans hunit')
      obtain ⟨rfl, rfl⟩ := ih h'
      exact ⟨rfl, rfl⟩
    | pair hfirst _ hhigh' =>
      obtain rfl := Option.some.inj (hunit.symm.trans hfirst)
      exact absurd hhigh' hhigh
  | pair hfirst hsecond hhigh _ _ ih =>
    cases h' with
    | plain _ _ hbackslash => exact absurd rfl hbackslash
    | short hmark' => cases hmark'
    | unit hunit' hhigh' =>
      obtain rfl := Option.some.inj (hfirst.symm.trans hunit')
      exact absurd hhigh hhigh'
    | pair hfirst' hsecond' _ _ h' =>
      obtain rfl := Option.some.inj (hfirst.symm.trans hfirst')
      obtain rfl := Option.some.inj (hsecond.symm.trans hsecond')
      obtain ⟨rfl, rfl⟩ := ih h'
      exact ⟨rfl, rfl⟩

private theorem not_number {c : Char} {chars rest : List Char} {value : ℚ} (hminus : c ≠ '-')
    (hdigit : c.isDigit = false) : ¬ReadsNumber (c :: chars) value rest := by
  intro h
  rcases h.head with hc | hc
  · exact hminus hc
  · rw [hdigit] at hc
    cases hc

/-- No value begins with a comma. -/
theorem not_readsValue_comma {chars rest : List Char} {value : Value} :
    ¬ReadsValue (',' :: chars) value rest := by
  intro h
  cases h with
  | number hn => exact not_number (by decide) (by decide) hn

/-- What closes an array is none of its elements. -/
private theorem not_elements_of_close {chars rest rest' : List Char} {values : List Value}
    (h : skipBlanks chars = ']' :: rest) : ¬ReadsElements chars values rest' := by
  have hvalue {value : Value} {behind : List Char} :
      ¬ReadsValue (skipBlanks chars) value behind := by
    rw [h]
    intro hv
    cases hv with
    | number hn => exact not_number (by decide) (by decide) hn
  intro he
  cases he with
  | last hv => exact hvalue hv
  | next hv => exact hvalue hv

/-- What closes an object is none of its members. -/
private theorem not_members_of_close {chars rest rest' : List Char}
    {members : List (String × Value)} (h : skipBlanks chars = '\x7d' :: rest) :
    ¬ReadsMembers chars members rest' := by
  have hmember {member : String × Value} {behind : List Char} :
      ¬ReadsMember chars member behind := by
    intro hm
    cases hm with
    | intro hopen => exact absurd (List.cons.inj (h.symm.trans hopen)).1 (by decide)
  intro hm
  cases hm with
  | last hm => exact hmember hm
  | next hm => exact hmember hm

mutual

theorem ReadsValue.unique {chars rest rest' : List Char} {value value' : Value} :
    ReadsValue chars value rest → ReadsValue chars value' rest' → value = value' ∧ rest = rest'
  | .null, h' => by
    cases h' with
    | null => exact ⟨rfl, rfl⟩
    | number h' => exact absurd h' (not_number (by decide) (by decide))
  | .truth, h' => by
    cases h' with
    | truth => exact ⟨rfl, rfl⟩
    | number h' => exact absurd h' (not_number (by decide) (by decide))
  | .falsity, h' => by
    cases h' with
    | falsity => exact ⟨rfl, rfl⟩
    | number h' => exact absurd h' (not_number (by decide) (by decide))
  | .number h, h' => by
    cases h' with
    | number h' =>
      obtain ⟨rfl, rfl⟩ := h.unique h'
      exact ⟨rfl, rfl⟩
    | _ => exact absurd h (not_number (by decide) (by decide))
  | .string h, h' => by
    cases h' with
    | string h' =>
      obtain ⟨rfl, rfl⟩ := h.unique h'
      exact ⟨rfl, rfl⟩
    | number h' => exact absurd h' (not_number (by decide) (by decide))
  | .emptyArray h, h' => by
    cases h' with
    | number h' => exact absurd h' (not_number (by decide) (by decide))
    | emptyArray h' =>
      obtain ⟨-, rfl⟩ := List.cons.inj (h.symm.trans h')
      exact ⟨rfl, rfl⟩
    | array h' => exact absurd h' (not_elements_of_close h)
  | .array h, h' => by
    cases h' with
    | number h' => exact absurd h' (not_number (by decide) (by decide))
    | emptyArray h' => exact absurd h (not_elements_of_close h')
    | array h' =>
      obtain ⟨rfl, rfl⟩ := ReadsElements.unique h h'
      exact ⟨rfl, rfl⟩
  | .emptyObject h, h' => by
    cases h' with
    | number h' => exact absurd h' (not_number (by decide) (by decide))
    | emptyObject h' =>
      obtain ⟨-, rfl⟩ := List.cons.inj (h.symm.trans h')
      exact ⟨rfl, rfl⟩
    | object h' => exact absurd h' (not_members_of_close h)
  | .object h, h' => by
    cases h' with
    | number h' => exact absurd h' (not_number (by decide) (by decide))
    | emptyObject h' => exact absurd h (not_members_of_close h')
    | object h' =>
      obtain ⟨rfl, rfl⟩ := ReadsMembers.unique h h'
      exact ⟨rfl, rfl⟩

theorem ReadsElements.unique {chars rest rest' : List Char} {values values' : List Value} :
    ReadsElements chars values rest → ReadsElements chars values' rest' →
      values = values' ∧ rest = rest'
  | .last hvalue hclose, h' => by
    cases h' with
    | last hvalue' hclose' =>
      obtain ⟨rfl, rfl⟩ := ReadsValue.unique hvalue hvalue'
      obtain ⟨-, rfl⟩ := List.cons.inj (hclose.symm.trans hclose')
      exact ⟨rfl, rfl⟩
    | next hvalue' hcomma' =>
      obtain ⟨rfl, rfl⟩ := ReadsValue.unique hvalue hvalue'
      exact absurd (List.cons.inj (hclose.symm.trans hcomma')).1 (by decide)
  | .next hvalue hcomma hothers, h' => by
    cases h' with
    | last hvalue' hclose' =>
      obtain ⟨rfl, rfl⟩ := ReadsValue.unique hvalue hvalue'
      exact absurd (List.cons.inj (hcomma.symm.trans hclose')).1 (by decide)
    | next hvalue' hcomma' hothers' =>
      obtain ⟨rfl, rfl⟩ := ReadsValue.unique hvalue hvalue'
      obtain ⟨-, rfl⟩ := List.cons.inj (hcomma.symm.trans hcomma')
      obtain ⟨rfl, rfl⟩ := ReadsElements.unique hothers hothers'
      exact ⟨rfl, rfl⟩

theorem ReadsMember.unique {chars rest rest' : List Char} {member member' : String × Value} :
    ReadsMember chars member rest → ReadsMember chars member' rest' →
      member = member' ∧ rest = rest'
  | .intro hopen hname hcolon hvalue, h' => by
    cases h' with
    | intro hopen' hname' hcolon' hvalue' =>
      obtain ⟨-, rfl⟩ := List.cons.inj (hopen.symm.trans hopen')
      obtain ⟨rfl, rfl⟩ := hname.unique hname'
      obtain ⟨-, rfl⟩ := List.cons.inj (hcolon.symm.trans hcolon')
      obtain ⟨rfl, rfl⟩ := ReadsValue.unique hvalue hvalue'
      exact ⟨rfl, rfl⟩

theorem ReadsMembers.unique {chars rest rest' : List Char}
    {members members' : List (String × Value)} :
    ReadsMembers chars members rest → ReadsMembers chars members' rest' →
      members = members' ∧ rest = rest'
  | .last hmember hclose, h' => by
    cases h' with
    | last hmember' hclose' =>
      obtain ⟨rfl, rfl⟩ := ReadsMember.unique hmember hmember'
      obtain ⟨-, rfl⟩ := List.cons.inj (hclose.symm.trans hclose')
      exact ⟨rfl, rfl⟩
    | next hmember' hcomma' =>
      obtain ⟨rfl, rfl⟩ := ReadsMember.unique hmember hmember'
      exact absurd (List.cons.inj (hclose.symm.trans hcomma')).1 (by decide)
  | .next hmember hcomma hothers, h' => by
    cases h' with
    | last hmember' hclose' =>
      obtain ⟨rfl, rfl⟩ := ReadsMember.unique hmember hmember'
      exact absurd (List.cons.inj (hcomma.symm.trans hclose')).1 (by decide)
    | next hmember' hcomma' hothers' =>
      obtain ⟨rfl, rfl⟩ := ReadsMember.unique hmember hmember'
      obtain ⟨-, rfl⟩ := List.cons.inj (hcomma.symm.trans hcomma')
      obtain ⟨rfl, rfl⟩ := ReadsMembers.unique hothers hothers'
      exact ⟨rfl, rfl⟩

end

/-- A text stands for one value at most. -/
theorem Document.unique {text : String} {value value' : Value} (h : Document text value)
    (h' : Document text value') : value = value' := by
  obtain ⟨rest, hvalue, -⟩ := h
  obtain ⟨rest', hvalue', -⟩ := h'
  exact (hvalue.unique hvalue').1

/-- A text stands for nothing if a comma comes right behind the bracket with which it opens. -/
theorem not_document_of_comma {text : String} {chars others : List Char} {value : Value}
    (hbracket : skipBlanks text.toList = '[' :: chars) (hcomma : skipBlanks chars = ',' :: others) :
    ¬Document text value := by
  rintro ⟨rest, hvalue, -⟩
  rw [hbracket] at hvalue
  cases hvalue with
  | number hn => exact not_number (by decide) (by decide) hn
  | emptyArray hclose => exact absurd (List.cons.inj (hcomma.symm.trans hclose)).1 (by decide)
  | array helements =>
    cases helements with
    | last hfirst | next hfirst =>
      rw [hcomma] at hfirst
      exact not_readsValue_comma hfirst

end SourceDiagnostics.Json
