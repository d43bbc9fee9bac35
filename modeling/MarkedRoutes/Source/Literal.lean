import MarkedRoutes.Text.IdentifierClass
import MarkedRoutes.Text.Blank

/-!
# Literals

The extent of a literal at the head of a text, and the value of a string
literal.  Every scanner returns the characters of the literal and the rest of
the text, and fails when the literal is not finished or holds a wrong escape.
-/

namespace MarkedRoutes.Source.Literal

open MarkedRoutes.Text

/-- Characters taken from the head of a text, and what follows them. -/
abbrev Scan := Option (List Char × List Char)

/-- Puts characters in front of what a scan takes. -/
def Scan.after (taken : List Char) (scan : Scan) : Scan :=
  scan.map fun (inner, rest) => (taken ++ inner, rest)

def hexValue (c : Char) : Option Nat :=
  if '0' ≤ c && c ≤ '9' then some (c.toNat - '0'.toNat)
  else if 'a' ≤ c && c ≤ 'f' then some (c.toNat - 'a'.toNat + 10)
  else if 'A' ≤ c && c ≤ 'F' then some (c.toNat - 'A'.toNat + 10)
  else none

/-- The character with a code point, unless the point is a surrogate or too large. -/
def charOfPoint (point : Nat) : Option Char :=
  if point < 0xD800 || (0xDFFF < point && point < 0x110000) then some (Char.ofNat point) else none

/-- The digits of a braced escape up to the closing brace: at most six, with underscores. -/
def bracedDigits (value count : Nat) : List Char → Option (Nat × List Char × List Char)
  | [] => none
  | '\x7d' :: rest => if count = 0 then none else some (value, ['\x7d'], rest)
  | '_' :: rest =>
    if count = 0 then none
    else (bracedDigits value count rest).map fun (v, taken, r) => (v, '_' :: taken, r)
  | c :: rest =>
    match hexValue c with
    | none => none
    | some digit =>
      if count = 6 then none
      else (bracedDigits (value * 16 + digit) (count + 1) rest).map
        fun (v, taken, r) => (v, c :: taken, r)

/-- An escape after its backslash: the character meant, the characters read and the rest.
A byte literal allows any two hexadecimal digits and no braced escape. -/
def escape (bytes : Bool) : List Char → Option (Char × List Char × List Char)
  | 'n' :: rest => some ('\n', ['n'], rest)
  | 'r' :: rest => some ('\r', ['r'], rest)
  | 't' :: rest => some ('\t', ['t'], rest)
  | '0' :: rest => some ('\x00', ['0'], rest)
  | '\\' :: rest => some ('\\', ['\\'], rest)
  | '\'' :: rest => some ('\'', ['\''], rest)
  | '"' :: rest => some ('"', ['"'], rest)
  | 'x' :: high :: low :: rest =>
    match hexValue high, hexValue low with
    | some h, some l =>
      if bytes || h < 8 then some (Char.ofNat (h * 16 + l), ['x', high, low], rest) else none
    | _, _ => none
  | 'u' :: '\x7b' :: rest =>
    if bytes then none
    else
      match bracedDigits 0 0 rest with
      | some (value, taken, after) =>
        (charOfPoint value).map fun c => (c, 'u' :: '\x7b' :: taken, after)
      | none => none
  | _ => none

/-- The blanks that an escaped line end swallows. -/
def isContinuationBlank (c : Char) : Bool := c == ' ' || c == '\t' || c == '\n' || c == '\r'

/-- The rest of an escaped string up to and including its closing quote: the value
and the characters read.  The fuel is the length of the text. -/
def quotedRest (bytes : Bool) : Nat → List Char → Option (List Char × List Char × List Char)
  | 0, _ => none
  | _ + 1, [] => none
  | _ + 1, '"' :: rest => some ([], ['"'], rest)
  | fuel + 1, '\r' :: '\n' :: rest =>
    (quotedRest bytes fuel rest).map fun (value, taken, r) =>
      ('\n' :: value, '\r' :: '\n' :: taken, r)
  | _ + 1, '\r' :: _ => none
  | fuel + 1, '\\' :: '\n' :: rest =>
    let blanks := rest.takeWhile isContinuationBlank
    (quotedRest bytes fuel (rest.dropWhile isContinuationBlank)).map fun (value, taken, r) =>
      (value, '\\' :: '\n' :: (blanks ++ taken), r)
  | fuel + 1, '\\' :: '\r' :: '\n' :: rest =>
    let blanks := rest.takeWhile isContinuationBlank
    (quotedRest bytes fuel (rest.dropWhile isContinuationBlank)).map fun (value, taken, r) =>
      (value, '\\' :: '\r' :: '\n' :: (blanks ++ taken), r)
  | fuel + 1, '\\' :: rest =>
    match escape bytes rest with
    | none => none
    | some (c, taken, after) =>
      (quotedRest bytes fuel after).map fun (value, more, r) =>
        (c :: value, '\\' :: (taken ++ more), r)
  | fuel + 1, c :: rest =>
    (quotedRest bytes fuel rest).map fun (value, taken, r) => (c :: value, c :: taken, r)

/-- Strips a text from the head of another. -/
def dropText : List Char → List Char → Option (List Char)
  | [], text => some text
  | _ :: _, [] => none
  | expected :: more, c :: rest => if expected = c then dropText more rest else none

/-- The body of a raw string up to a quote followed by its hashes. -/
def rawRest (hashes : List Char) : List Char → Option (List Char × List Char × List Char)
  | [] => none
  | '\r' :: '\n' :: rest =>
    (rawRest hashes rest).map fun (value, taken, r) => ('\n' :: value, '\r' :: '\n' :: taken, r)
  | '\r' :: _ => none
  | '"' :: rest =>
    match dropText hashes rest with
    | some after => some ([], '"' :: hashes, after)
    | none => (rawRest hashes rest).map fun (value, taken, r) => ('"' :: value, '"' :: taken, r)
  | c :: rest => (rawRest hashes rest).map fun (value, taken, r) => (c :: value, c :: taken, r)

/-- A string after its prefix letters: escaped when it opens with a quote, raw when it
opens with hashes or is marked raw. -/
def stringBody (raw bytes : Bool) (text : List Char) :
    Option (List Char × List Char × List Char) :=
  if raw then
    let hashes := text.takeWhile (· == '#')
    match text.dropWhile (· == '#') with
    | '"' :: rest =>
      (rawRest hashes rest).map fun (value, taken, r) => (value, hashes ++ '"' :: taken, r)
    | _ => none
  else
    match text with
    | '"' :: rest =>
      (quotedRest bytes (rest.length + 1) rest).map fun (value, taken, r) =>
        (value, '"' :: taken, r)
    | _ => none

/-- A suffix glued to a literal: an identifier that is not raw. -/
def withSuffix (taken rest : List Char) : List Char × List Char :=
  match rest with
  | c :: _ =>
    if isIdentifierStart c then
      (taken ++ rest.takeWhile isIdentifierContinue, rest.dropWhile isIdentifierContinue)
    else (taken, rest)
  | [] => (taken, rest)

/-- A literal that is a string of some kind. -/
def stringOf (lead : List Char) (raw bytes : Bool) (rest : List Char) : Scan :=
  (stringBody raw bytes rest).map fun (_, taken, r) => withSuffix (lead ++ taken) r

/-- A character or byte literal after its opening apostrophe. -/
def characterRest (bytes : Bool) : List Char → Scan
  | '\\' :: rest =>
    match escape bytes rest with
    | some (_, taken, '\'' :: after) => some ('\\' :: (taken ++ ['\'']), after)
    | _ => none
  | c :: '\'' :: rest => some ([c, '\''], rest)
  | _ => none

/-- The exponent of a number after its `e`, when it has digits. -/
def exponent (text : List Char) : Scan :=
  let (sign, digits) :=
    match text with
    | '+' :: rest => (['+'], rest)
    | '-' :: rest => (['-'], rest)
    | _ => ([], text)
  let taken := digits.takeWhile fun c => c.isDigit || c == '_'
  if taken.any Char.isDigit then
    some (sign ++ taken, digits.dropWhile fun c => c.isDigit || c == '_')
  else none

/-- A number: digits, a fraction unless a name or a second dot follows the dot, an
exponent, and a suffix. -/
def number (text : List Char) : Scan :=
  let isDigitMark (c : Char) := c.isDigit || c == '_'
  match text with
  | '0' :: base :: rest =>
    if base == 'x' || base == 'o' || base == 'b' then
      let taken := rest.takeWhile isIdentifierContinue
      if taken.isEmpty then none
      else some ('0' :: base :: taken, rest.dropWhile isIdentifierContinue)
    else decimal isDigitMark text
  | c :: _ => if c.isDigit then decimal isDigitMark text else none
  | [] => none
where
  /-- A number in base ten. -/
  decimal (isDigitMark : Char → Bool) (text : List Char) : Scan :=
    let whole := text.takeWhile isDigitMark
    let (mantissa, rest) :=
      match text.dropWhile isDigitMark with
      | '.' :: after =>
        match after with
        | next :: _ =>
          if next == '.' || isIdentifierStart next then (whole, '.' :: after)
          else (whole ++ '.' :: after.takeWhile isDigitMark, after.dropWhile isDigitMark)
        | [] => (whole ++ ['.'], [])
      | after => (whole, after)
    match rest with
    | mark :: after =>
      if mark == 'e' || mark == 'E' then
        match exponent after with
        | some (taken, final) => some (withSuffix (mantissa ++ mark :: taken) final)
        | none => some (withSuffix mantissa rest)
      else some (withSuffix mantissa rest)
    | [] => some (mantissa, [])

def scan : List Char → Scan
  | '"' :: rest => stringOf [] false false ('"' :: rest)
  | 'r' :: '"' :: rest => stringOf ['r'] true false ('"' :: rest)
  | 'r' :: '#' :: rest => stringOf ['r'] true false ('#' :: rest)
  | 'b' :: '"' :: rest => stringOf ['b'] false true ('"' :: rest)
  | 'b' :: 'r' :: rest => stringOf ['b', 'r'] true true rest
  | 'c' :: '"' :: rest => stringOf ['c'] false false ('"' :: rest)
  | 'c' :: 'r' :: rest => stringOf ['c', 'r'] true false rest
  | 'b' :: '\'' :: rest => (characterRest true rest).map fun (taken, r) =>
      withSuffix ('b' :: '\'' :: taken) r
  | '\'' :: rest => (characterRest false rest).map fun (taken, r) =>
      withSuffix ('\'' :: taken) r
  | text => number text

/-- The value of a string literal; byte strings, C strings and other literals have none. -/
def stringValue? (text : String) : Option String :=
  match text.toList with
  | '"' :: rest => (stringBody false false ('"' :: rest)).map fun (value, _) => String.ofList value
  | 'r' :: rest => (stringBody true false rest).map fun (value, _) => String.ofList value
  | _ => none

end MarkedRoutes.Source.Literal
