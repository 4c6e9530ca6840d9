import SourceDiagnostics.Text.Combining
import SourceDiagnostics.Text.Printable

/-!
# Quoted text

A text or a single character between quotes, with the characters that could mislead a
reader written as escapes: a backslash and a letter for the common ones, a backslash, `u`
and the code point in braces for every other character that is not printable. A combining
character right after the opening quote would attach to the quote, so it is escaped there.
-/

namespace SourceDiagnostics.Text

/-- What is known of the characters that may be quoted. -/
structure Repertoire where
  isPrintable : Char → Bool
  isCombining : Char → Bool

/-- The characters as the Unicode standard classifies them. -/
def Repertoire.unicode : Repertoire := ⟨Text.isPrintable, Text.isCombining⟩

/-- The code point of `c` in braces, in lower-case hexadecimal with no leading zero. -/
def escapeCodePoint (c : Char) : List Char :=
  '\\' :: 'u' :: '\x7b' :: Nat.toDigits 16 c.toNat ++ ['\x7d']

/-- One character of a quoted text. `quotes` are the quotes that need a backslash, and
`atStart` tells whether the opening quote stands right before the character. -/
def escapeChar (repertoire : Repertoire) (quotes : List Char) (atStart : Bool) (c : Char) :
    List Char :=
  if c = '\x00' then ['\\', '0']
  else if c = '\t' then ['\\', 't']
  else if c = '\r' then ['\\', 'r']
  else if c = '\n' then ['\\', 'n']
  else if c = '\\' ∨ c ∈ quotes then ['\\', c]
  else if repertoire.isPrintable c && !(atStart && repertoire.isCombining c) then [c]
  else escapeCodePoint c

/-- The quote around a single character. -/
def singleQuote : Char := '\x27'

/-- The quote around a text. -/
def doubleQuote : Char := '\x22'

/-- The inside of a quoted text: both quotes carry a backslash there. -/
def escapeChars (repertoire : Repertoire) : List Char → List Char
  | [] => []
  | c :: rest =>
    escapeChar repertoire [singleQuote, doubleQuote] true c ++
      rest.flatMap (escapeChar repertoire [singleQuote, doubleQuote] false)

/-- The text between double quotes, escaped. -/
def quoteText (repertoire : Repertoire) (text : String) : String :=
  String.ofList (doubleQuote :: escapeChars repertoire text.toList ++ [doubleQuote])

/-- The character between single quotes, escaped; a double quote needs no backslash there. -/
def quoteChar (repertoire : Repertoire) (c : Char) : String :=
  String.ofList (singleQuote :: escapeChar repertoire [singleQuote] true c ++ [singleQuote])

end SourceDiagnostics.Text
