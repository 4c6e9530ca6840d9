import SourceDiagnostics.Text.Utf8

/-!
# Binary formats

A format writes values of a type as bytes and reads them back from the front of a list of
bytes, with the bytes behind the value as what is left. Formats of larger types are put
together from those of their parts, one behind the other. Numbers are written with the least
byte first and in a fixed width, and whatever has no fixed size has its size in front.
-/

namespace SourceDiagnostics.Wire

/-- The reason for which bytes do not begin with a value. Of several the one counts that is
met first from the front. -/
inductive ReadError where
  /-- The bytes end before the value does. -/
  | tooShort
  /-- A text is not UTF-8. -/
  | notUtf8
  /-- The byte that tells whether there is a value tells neither. -/
  | badFlag (found : UInt8)
  /-- The number of an alternative is not below how many there are. -/
  | badVariant (found count : Nat)
  deriving DecidableEq, Repr

/-- The text that tells of an error. -/
def ReadError.message : ReadError → String
  | .tooShort => "unexpected end of bytes"
  | .notUtf8 => "text is not valid UTF-8"
  | .badFlag found => "tag for enum is not valid, found " ++ toString found
  | .badVariant found count =>
    "invalid value: integer `" ++ toString found ++ "`, expected variant index 0 <= i < " ++
      toString count

/-- A way to write values as bytes and to read them back. -/
structure Format (α : Type) where
  write : α → List UInt8
  read : List UInt8 → Except ReadError (α × List UInt8)

/-- The lowest bytes of a number, the least one first. -/
def littleEndian : Nat → Nat → List UInt8
  | 0, _ => []
  | width + 1, n => UInt8.ofNat n :: littleEndian width (n / 256)

/-- Reads a number from a fixed count of bytes, the least one first. -/
def readLittleEndian : Nat → List UInt8 → Except ReadError (Nat × List UInt8)
  | 0, bytes => .ok (0, bytes)
  | _ + 1, [] => .error .tooShort
  | width + 1, byte :: bytes => do
    let (n, rest) ← readLittleEndian width bytes
    return (byte.toNat + 256 * n, rest)

namespace Format

variable {α β : Type}

/-- The same bytes for the values of another type. -/
def convert (format : Format α) (toValue : α → β) (ofValue : β → α) : Format β where
  write value := format.write (ofValue value)
  read bytes := do
    let (value, rest) ← format.read bytes
    return (toValue value, rest)

/-- A number in `width` bytes, which it has to fit into. -/
def number (width : Nat) : Format Nat := ⟨littleEndian width, readLittleEndian width⟩

/-- A number of 32 bits. -/
def word : Format UInt32 := (number 4).convert UInt32.ofNat UInt32.toNat

/-- How many elements or bytes follow. -/
def count : Format Nat := number 8

/-- A text in UTF-8 behind the number of its bytes. -/
def text : Format String where
  write value := count.write (Text.utf8Length value.toList) ++ Text.utf8 value.toList
  read bytes := do
    let (size, rest) ← count.read bytes
    if rest.length < size then throw .tooShort
    match String.fromUTF8? ⟨(rest.take size).toArray⟩ with
    | some value => return (value, rest.drop size)
    | none => throw .notUtf8

/-- A value of one type and then one of another. -/
def pair (first : Format α) (second : Format β) : Format (α × β) where
  write value := first.write value.1 ++ second.write value.2
  read bytes := do
    let (a, rest) ← first.read bytes
    let (b, rest) ← second.read rest
    return ((a, b), rest)

/-- A value that may be missing, behind a byte that tells whether it is there. -/
def option (format : Format α) : Format (Option α) where
  write
    | none => [0]
    | some value => 1 :: format.write value
  read
    | [] => throw .tooShort
    | flag :: bytes =>
      if flag = 0 then return (none, bytes)
      else if flag = 1 then do
        let (value, rest) ← format.read bytes
        return (some value, rest)
      else throw (.badFlag flag)

/-- Reads values one behind the other, as many as are asked for. -/
def readMany (format : Format α) : Nat → List UInt8 → Except ReadError (List α × List UInt8)
  | 0, bytes => .ok ([], bytes)
  | n + 1, bytes => do
    let (value, rest) ← format.read bytes
    let (values, rest) ← format.readMany n rest
    return (value :: values, rest)

/-- Values one behind the other, behind their number. -/
def list (format : Format α) : Format (List α) where
  write values := count.write values.length ++ values.flatMap format.write
  read bytes := do
    let (size, rest) ← count.read bytes
    format.readMany size rest

/-- One of the listed values, by its number in the list. -/
def variant [BEq α] (values : List α) : Format α where
  write value := (number 4).write (values.idxOf value)
  read bytes := do
    let (index, rest) ← (number 4).read bytes
    match values[index]? with
    | some value => return (value, rest)
    | none => throw (.badVariant index values.length)

end Format

end SourceDiagnostics.Wire
