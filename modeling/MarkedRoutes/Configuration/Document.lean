import MarkedRoutes.Source.Lexer
import MarkedRoutes.Text.Split

/-!
# Setting documents

A setting document assigns texts and truth values to keys, one key to a line.
Texts are quoted on one line or on several, with escapes between double quotes
and without between single ones.  Documents with tables, numbers, dates or
arrays are refused, as no setting has such a value.
-/

namespace MarkedRoutes

open MarkedRoutes.Source

/-- The value of a setting. -/
inductive Setting where
  | text (value : String)
  | flag (value : Bool)
  deriving DecidableEq, Repr

namespace Document

/-- Blanks within a line. -/
def isSpace (c : Char) : Bool := c == ' ' || c == '\t'

/-- Characters of comments and literal texts: no control character but the tab. -/
def isContent (c : Char) : Bool := c == '\t' || (' ' ≤ c && c != '\x7f')

/-- Characters of keys without quotes. -/
def isKeyChar (c : Char) : Bool :=
  ('a' ≤ c && c ≤ 'z') || ('A' ≤ c && c ≤ 'Z') || ('0' ≤ c && c ≤ '9') || c == '_' || c == '-'

def dropLineEnd? : List Char → Option (List Char)
  | '\n' :: rest => some rest
  | '\r' :: '\n' :: rest => some rest
  | _ => none

/-- Drops a line end when there is one. -/
def dropLineEnd (text : List Char) : List Char := (dropLineEnd? text).getD text

/-- The number that exactly `count` hexadecimal digits stand for. -/
def hexNumber (value : Nat) : Nat → List Char → Option (Nat × List Char)
  | 0, text => some (value, text)
  | count + 1, c :: rest =>
    match Literal.hexValue c with
    | some digit => hexNumber (value * 16 + digit) count rest
    | none => none
  | _ + 1, [] => none

/-- The character that an escape of so many hexadecimal digits stands for. -/
def hexEscape (count : Nat) (text : List Char) : Option (Char × List Char) :=
  match hexNumber 0 count text with
  | some (point, rest) => (Literal.charOfPoint point).map fun c => (c, rest)
  | none => none

/-- The character that an escape stands for, after its backslash. -/
def escape : List Char → Option (Char × List Char)
  | 'b' :: rest => some ('\x08', rest)
  | 't' :: rest => some ('\t', rest)
  | 'n' :: rest => some ('\n', rest)
  | 'f' :: rest => some ('\x0c', rest)
  | 'r' :: rest => some ('\r', rest)
  | 'e' :: rest => some ('\x1b', rest)
  | '"' :: rest => some ('"', rest)
  | '\\' :: rest => some ('\\', rest)
  | 'x' :: rest => hexEscape 2 rest
  | 'u' :: rest => hexEscape 4 rest
  | 'U' :: rest => hexEscape 8 rest
  | _ => none

/-- Drops blanks and line ends.  The fuel is the length of the text. -/
def dropBlankLines : Nat → List Char → List Char
  | 0, text => text
  | fuel + 1, text =>
    match dropLineEnd? text with
    | some rest => dropBlankLines fuel rest
    | none =>
      match text with
      | c :: rest => if isSpace c then dropBlankLines fuel rest else text
      | [] => []

/-- What follows a backslash that ends its line: blanks and line ends up to the next text. -/
def dropContinuation? (text : List Char) : Option (List Char) :=
  (dropLineEnd? (text.dropWhile isSpace)).map fun rest => dropBlankLines rest.length rest

/-- The quotes at the end of a text of several lines: three of them close it, and one or two
more in front belong to the text. -/
def closing? (quote : Char) (text : List Char) : Option (List Char × List Char) :=
  let count := min 5 (text.takeWhile (· == quote)).length
  if 3 ≤ count then some (List.replicate (count - 3) quote, text.drop count) else none

/-- The rest of an escaped text, up to its closing quotes.  The fuel is the length. -/
def escapedRest (several : Bool) : Nat → List Char → Option (List Char × List Char)
  | 0, _ => none
  | _ + 1, [] => none
  | fuel + 1, c :: rest =>
    let goOn (taken : List Char) (after : List Char) :=
      (escapedRest several fuel after).map fun (value, r) => (taken ++ value, r)
    if c = '"' then
      if several then
        match closing? '"' (c :: rest) with
        | some closed => some closed
        | none => goOn ['"'] rest
      else some ([], rest)
    else if c = '\\' then
      match if several then dropContinuation? rest else none with
      | some after => goOn [] after
      | none =>
        match escape rest with
        | some (value, after) => goOn [value] after
        | none => none
    else if isContent c then goOn [c] rest
    else if several then
      match dropLineEnd? (c :: rest) with
      | some after => goOn ['\n'] after
      | none => none
    else none

/-- The rest of a literal text of several lines, up to its closing quotes. -/
def literalRest : Nat → List Char → Option (List Char × List Char)
  | 0, _ => none
  | _ + 1, [] => none
  | fuel + 1, c :: rest =>
    let goOn (taken : List Char) (after : List Char) :=
      (literalRest fuel after).map fun (value, r) => (taken ++ value, r)
    if c = '\'' then
      match closing? '\'' (c :: rest) with
      | some closed => some closed
      | none => goOn ['\''] rest
    else if isContent c then goOn [c] rest
    else
      match dropLineEnd? (c :: rest) with
      | some after => goOn ['\n'] after
      | none => none

/-- A text between quotes on one line. -/
def readQuoted : List Char → Option (List Char × List Char)
  | '"' :: rest => escapedRest false (rest.length + 1) rest
  | '\'' :: rest =>
    let content := rest.takeWhile fun c => isContent c && c != '\''
    match rest.drop content.length with
    | '\'' :: after => some (content, after)
    | _ => none
  | _ => none

/-- A quoted text of one or several lines. -/
def readText : List Char → Option (List Char × List Char)
  | '"' :: '"' :: '"' :: rest => escapedRest true (rest.length + 1) (dropLineEnd rest)
  | '\'' :: '\'' :: '\'' :: rest => literalRest (rest.length + 1) (dropLineEnd rest)
  | text => readQuoted text

def readValue (text : List Char) : Option (Setting × List Char) :=
  match Text.dropFront? "true".toList text with
  | some rest => some (.flag true, rest)
  | none =>
    match Text.dropFront? "false".toList text with
    | some rest => some (.flag false, rest)
    | none => (readText text).map fun (value, rest) => (.text (String.ofList value), rest)

/-- A key: a word, or a text between quotes. -/
def readKey (text : List Char) : Option (String × List Char) :=
  match text.takeWhile isKeyChar with
  | [] => (readQuoted text).map fun (key, rest) => (String.ofList key, rest)
  | key => some (String.ofList key, text.drop key.length)

/-- The lines after a setting or an empty line: blanks, a comment, and a line end unless the
text is over. -/
def finishLine (text : List Char) : Option (List Char) :=
  let text := text.dropWhile isSpace
  let text :=
    match text with
    | '#' :: rest => rest.dropWhile isContent
    | _ => text
  match text with
  | [] => some []
  | _ => dropLineEnd? text

/-- A key, the equals sign and a value. -/
def readSetting (text : List Char) : Option ((String × Setting) × List Char) := do
  let (key, rest) ← readKey text
  match rest.dropWhile isSpace with
  | '=' :: rest => do
    let (value, rest) ← readValue (rest.dropWhile isSpace)
    some ((key, value), rest)
  | _ => none

/-- Whether nothing but a comment can stand on the line. -/
def startsEmptyLine (text : List Char) : Bool :=
  match text with
  | [] => true
  | c :: _ => c == '#' || c == '\n' || c == '\r'

/-- The settings of a text, line by line.  The fuel is the length of the text. -/
def readSettings : Nat → List Char → Option (List (String × Setting))
  | 0, _ => some []
  | fuel + 1, text =>
    let text := text.dropWhile isSpace
    match text with
    | [] => some []
    | _ =>
      if startsEmptyLine text then
        match finishLine text with
        | some rest => readSettings fuel rest
        | none => none
      else do
        let (setting, rest) ← readSetting text
        let rest ← finishLine rest
        let others ← readSettings fuel rest
        some (setting :: others)

end Document

/-- The settings of a document in order, unless a line is not understood. -/
def settingsOfText? (text : String) : Option (List (String × Setting)) :=
  let content := dropByteOrderMark text.toList
  Document.readSettings (content.length + 1) content

end MarkedRoutes
