import MarkedRoutes.Decimal.Shortest
import MarkedRoutes.Json.Value

/-!
# JSON text

Values are written without blanks, or with each element and member on a line of
its own.  A string escapes the quote, the backslash and the control characters
below the space; floating-point numbers have their shortest digits, positional
from five places below the point to sixteen above it.
-/

namespace MarkedRoutes.Json

open MarkedRoutes.Decimal

def codePointEscape (c : Char) : List Char :=
  let digits := Nat.toDigits 16 c.toNat
  '\\' :: 'u' :: (List.replicate (4 - digits.length) '0' ++ digits)

/-- How one character stands inside a string. -/
def escapeChar (c : Char) : List Char :=
  if c == '"' then ['\\', '"']
  else if c == '\\' then ['\\', '\\']
  else if c == '\x08' then ['\\', 'b']
  else if c == '\t' then ['\\', 't']
  else if c == '\n' then ['\\', 'n']
  else if c == '\x0c' then ['\\', 'f']
  else if c == '\r' then ['\\', 'r']
  else if c < ' ' then codePointEscape c
  else [c]

def quoteText (text : String) : List Char :=
  '"' :: (text.toList.flatMap escapeChar ++ ['"'])

/-- The digits of a positive number in positional or exponential notation. -/
def floatingDigits (digits : Digits) : List Char :=
  if -5 ≤ digits.leading && digits.leading ≤ 15 then positional digits ['.', '0']
  else exponential digits

/-- A floating-point number. -/
def floatingText : Floating → List Char
  | .nan => "null".toList
  | .infinite _ => "null".toList
  | .finite negative 0 _ => signChars negative ++ "0.0".toList
  | .finite negative (significand + 1) exponent =>
    signChars negative ++ floatingDigits (double.shortest true (significand + 1) exponent)

def integerText (value : Int) : List Char := signChars (value < 0) ++ digitChars value.natAbs

def numberText : JsonNumber → List Char
  | .natural value => digitChars value
  | .negative value => integerText value
  | .floating value => floatingText value

/-- Items with a comma between them. -/
def commaJoined : List (List Char) → List Char
  | [] => []
  | [last] => last
  | first :: second :: rest => first ++ ',' :: commaJoined (second :: rest)

mutual

def compact : Json → List Char
  | .null => "null".toList
  | .boolean value => (if value then "true" else "false").toList
  | .number value => numberText value
  | .string value => quoteText value
  | .array elements => '[' :: (commaJoined (compactElements elements) ++ [']'])
  | .object members => '\x7b' :: (commaJoined (compactMembers members) ++ ['\x7d'])

def compactElements : List Json → List (List Char)
  | [] => []
  | first :: rest => compact first :: compactElements rest

def compactMembers : List (String × Json) → List (List Char)
  | [] => []
  | (name, value) :: rest => (quoteText name ++ ':' :: compact value) :: compactMembers rest

end

/-- A new line, indented by two blanks for each level. -/
def newLine (level : Nat) : List Char := '\n' :: List.replicate (2 * level) ' '

/-- Items on lines of their own between brackets. -/
def lines (level : Nat) (opening closing : Char) (items : List (List Char)) : List Char :=
  if items.isEmpty then [opening, closing]
  else
    opening :: (commaJoined (items.map fun item => newLine (level + 1) ++ item) ++
      newLine level ++ [closing])

mutual

def indented (level : Nat) : Json → List Char
  | .array elements => lines level '[' ']' (indentedElements (level + 1) elements)
  | .object members => lines level '\x7b' '\x7d' (indentedMembers (level + 1) members)
  | .null => "null".toList
  | .boolean value => (if value then "true" else "false").toList
  | .number value => numberText value
  | .string value => quoteText value

def indentedElements (level : Nat) : List Json → List (List Char)
  | [] => []
  | first :: rest => indented level first :: indentedElements level rest

def indentedMembers (level : Nat) : List (String × Json) → List (List Char)
  | [] => []
  | (name, value) :: rest =>
    (quoteText name ++ ':' :: ' ' :: indented level value) :: indentedMembers level rest

end

def text (value : Json) : String := String.ofList value.compact

/-- The text of a value on several lines. -/
def prettyText (value : Json) : String := String.ofList (value.indented 0)

end MarkedRoutes.Json
