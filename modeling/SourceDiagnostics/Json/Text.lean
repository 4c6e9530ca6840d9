import SourceDiagnostics.Text.Printable

/-!
# Strings in JSON

A string stands between double quotes. The quote, the backslash, line feed, carriage return
and tab carry a backslash; any other control character is written by its code point, and every
character left stands for itself.
-/

namespace SourceDiagnostics.Json

/-- The code point of `c` in at least four lower-case hexadecimal digits. -/
def escapeCodePoint (c : Char) : List Char :=
  '\\' :: 'u' :: (Nat.toDigits 16 c.toNat).leftpad 4 '0'

/-- A character of a string. -/
def escapeChar (c : Char) : List Char :=
  if c = '\x22' then ['\\', '\x22']
  else if c = '\\' then ['\\', '\\']
  else if c = '\n' then ['\\', 'n']
  else if c = '\r' then ['\\', 'r']
  else if c = '\t' then ['\\', 't']
  else if Text.isControl c then escapeCodePoint c
  else [c]

/-- The inside of a string. -/
def escape (text : String) : String := String.ofList (text.toList.flatMap escapeChar)

/-- The text as a string between quotes. -/
def quote (text : String) : String := "\"" ++ escape text ++ "\""

theorem toList_escape (text : String) :
    (escape text).toList = text.toList.flatMap escapeChar := by
  simp [escape]

end SourceDiagnostics.Json
