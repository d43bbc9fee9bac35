import MarkedRoutes.Text.Printable

/-!
# Quoted text

A text in double quotes with escapes, as diagnostics and generated string
literals show it.  Tab, line feed, carriage return, NUL, the quote and the
backslash have short escapes; every other character that is not printable, or
that would attach to the character before it, is written by its code point.
-/

namespace MarkedRoutes.Text

/-- The digits of a number in base sixteen, lower case and without leading zeros. -/
def hexDigits (value : Nat) : List Char := Nat.toDigits 16 value

/-- How one character stands inside a quoted text. -/
def escapeChar (c : Char) : List Char :=
  if c == '\x00' then ['\\', '0']
  else if c == '\t' then ['\\', 't']
  else if c == '\n' then ['\\', 'n']
  else if c == '\r' then ['\\', 'r']
  else if c == '"' then ['\\', '"']
  else if c == '\\' then ['\\', '\\']
  else if extendsGrapheme c || !isPrintable c then
    "\\u\x7b".toList ++ hexDigits c.toNat ++ ['\x7d']
  else [c]

/-- A text between double quotes, each character escaped. -/
def quote (text : List Char) : List Char :=
  '"' :: (text.flatMap escapeChar ++ ['"'])

/-- Whether the next character is an octal digit. -/
def startsOctal : List Char → Bool
  | c :: _ => '0' ≤ c && c ≤ '7'
  | [] => false

/-- The inside of a string literal: as in a quoted text, but a NUL before an
octal digit is written in two hexadecimal digits, so that it cannot be misread. -/
def literalBody : List Char → List Char
  | [] => []
  | c :: rest =>
    (if c == '\x00' && startsOctal rest then "\\x00".toList else escapeChar c) ++ literalBody rest

/-- A string literal whose value is the text. -/
def stringLiteral (text : String) : String :=
  String.ofList ('"' :: (literalBody text.toList ++ ['"']))

def quoted (text : String) : String := String.ofList (quote text.toList)

end MarkedRoutes.Text
