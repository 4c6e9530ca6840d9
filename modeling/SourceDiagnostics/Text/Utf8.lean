/-!
# The bytes of a text

A text is written in UTF-8, and offsets into it count bytes. A character begins at each
byte that does not continue another one.
-/

namespace SourceDiagnostics.Text

/-- The bytes of the characters in UTF-8. -/
def utf8 (chars : List Char) : List UInt8 := chars.flatMap String.utf8EncodeChar

/-- The number of bytes of the characters in UTF-8. -/
def utf8Length : List Char → Nat
  | [] => 0
  | c :: chars => c.utf8Size + utf8Length chars

/-- Whether a byte continues a character that began before it. -/
def isContinuation (byte : UInt8) : Bool := byte &&& 0xC0 == 0x80

@[simp] theorem utf8_nil : utf8 [] = [] := rfl

@[simp] theorem utf8_cons (c : Char) (chars : List Char) :
    utf8 (c :: chars) = String.utf8EncodeChar c ++ utf8 chars := by
  simp [utf8]

@[simp] theorem utf8_append (front back : List Char) :
    utf8 (front ++ back) = utf8 front ++ utf8 back := by
  simp [utf8]

@[simp] theorem utf8Length_nil : utf8Length [] = 0 := rfl

@[simp] theorem utf8Length_cons (c : Char) (chars : List Char) :
    utf8Length (c :: chars) = c.utf8Size + utf8Length chars := rfl

@[simp] theorem utf8Length_append (front back : List Char) :
    utf8Length (front ++ back) = utf8Length front + utf8Length back := by
  induction front with
  | nil => simp
  | cons c front ih => simp [ih, Nat.add_assoc]

/-- Counting the bytes agrees with writing them. -/
theorem length_utf8 (chars : List Char) : (utf8 chars).length = utf8Length chars := by
  induction chars with
  | nil => rfl
  | cons c chars ih => simp [ih]

end SourceDiagnostics.Text
