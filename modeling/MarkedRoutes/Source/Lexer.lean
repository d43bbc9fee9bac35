import MarkedRoutes.Source.Keyword
import MarkedRoutes.Source.Literal
import MarkedRoutes.Text.Quoted

/-!
# Reading tokens

A text is cut into lexemes by repeatedly skipping blanks and comments and taking
the longest lexeme, and the lexemes are then nested by their brackets.  A
documentation comment reads as the attribute it abbreviates.  Reading fails when
a lexeme is not finished, a character belongs to none, or brackets do not pair.
-/

namespace MarkedRoutes.Source

open MarkedRoutes.Text

/-- A token, or one side of a group. -/
inductive Lexeme where
  | leaf (token : Token)
  | openGroup (delimiter : Delimiter)
  | closeGroup (delimiter : Delimiter)

namespace Lexeme

/-- Blank between tokens: white space and the two direction marks. -/
def isSeparator (c : Char) : Bool := isBlank c || c == '\u200e' || c == '\u200f'

/-- A line comment that documents nothing. -/
def isPlainLineComment : List Char → Bool
  | '/' :: '/' :: '/' :: '/' :: _ => true
  | '/' :: '/' :: '/' :: _ => false
  | '/' :: '/' :: '!' :: _ => false
  | '/' :: '/' :: _ => true
  | _ => false

/-- A block comment that documents nothing. -/
def isPlainBlockComment : List Char → Bool
  | '/' :: '*' :: '*' :: '/' :: _ => true
  | '/' :: '*' :: '*' :: '*' :: _ => true
  | '/' :: '*' :: '*' :: _ => false
  | '/' :: '*' :: '!' :: _ => false
  | '/' :: '*' :: _ => true
  | _ => false

/-- The inside of a block comment after its opening, to the closing that matches:
comments nest.  `depth` counts the comments still open inside. -/
def blockComment (depth : Nat) : List Char → Option (List Char × List Char)
  | '/' :: '*' :: rest =>
    (blockComment (depth + 1) rest).map fun (inner, r) => ('/' :: '*' :: inner, r)
  | '*' :: '/' :: rest =>
    match depth with
    | 0 => some ([], rest)
    | outer + 1 => (blockComment outer rest).map fun (inner, r) => ('*' :: '/' :: inner, r)
  | c :: rest => (blockComment depth rest).map fun (inner, r) => (c :: inner, r)
  | [] => none

def lineFeeds (text : List Char) : Nat := text.count '\n'

/-- Skips blanks and plain comments, counting lines.  The fuel is the length of the text. -/
def skipBlanks : Nat → Nat → List Char → Nat × List Char
  | 0, line, text => (line, text)
  | _ + 1, line, [] => (line, [])
  | fuel + 1, line, c :: rest =>
    if isPlainLineComment (c :: rest) then
      skipBlanks fuel line (rest.dropWhile (· != '\n'))
    else if isPlainBlockComment (c :: rest) then
      match blockComment 0 (rest.drop 1) with
      | some (inner, after) => skipBlanks fuel (line + lineFeeds inner) after
      | none => (line, c :: rest)
    else if isSeparator c then
      skipBlanks fuel (if c == '\n' then line + 1 else line) rest
    else (line, c :: rest)

/-- Whether every carriage return is followed by a line feed. -/
def hasNoBareReturn : List Char → Bool
  | '\r' :: '\n' :: rest => hasNoBareReturn rest
  | '\r' :: _ => false
  | _ :: rest => hasNoBareReturn rest
  | [] => true

def documentation (inner : Bool) (text : List Char) (line : Nat) : List Lexeme :=
  .leaf (.punct '#' false) :: ((if inner then [.leaf (.punct '!' false)] else []) ++
    [.openGroup .bracket, .leaf (.ident "doc" line), .leaf (.punct '=' false),
      .leaf (.literal (stringLiteral (String.ofList text))), .closeGroup .bracket])

/-- The text of a line without the carriage return that precedes its line feed. -/
def dropFinalReturn (text rest : List Char) : List Char :=
  if rest.isEmpty then text
  else if text.getLast? == some '\r' then text.dropLast else text

/-- A documentation comment at the head of a text: whether it belongs to what encloses
it, its text, and the rest. -/
def documentationComment : List Char → Option (Bool × List Char × List Char)
  | '/' :: '/' :: '/' :: rest => line false rest
  | '/' :: '/' :: '!' :: rest => line true rest
  | '/' :: '*' :: '*' :: rest => block false rest
  | '/' :: '*' :: '!' :: rest => block true rest
  | _ => none
where
  /-- A documentation comment that ends with its line. -/
  line (inner : Bool) (rest : List Char) : Option (Bool × List Char × List Char) :=
    let after := rest.dropWhile (· != '\n')
    some (inner, dropFinalReturn (rest.takeWhile (· != '\n')) after, after)
  /-- A documentation comment in a block. -/
  block (inner : Bool) (rest : List Char) : Option (Bool × List Char × List Char) :=
    (blockComment 0 rest).map fun (text, after) => (inner, text, after)

/-- The characters that can stand as punctuation. -/
def punctuation : List Char := "~!@#$%^&*-=+|;:,<.>/?'".toList

/-- Whether a text goes on with a punctuation character that opens no comment. -/
def startsPunctuation : List Char → Bool
  | '/' :: '/' :: _ => false
  | '/' :: '*' :: _ => false
  | c :: _ => punctuation.contains c
  | [] => false

/-- An identifier at the head of a text, with its raw mark when it has one. -/
def identifier : List Char → Option (List Char × List Char)
  | 'r' :: '#' :: c :: rest =>
    if isIdentifierStart c then
      let name := c :: rest.takeWhile isIdentifierContinue
      if hasNoRawForm (String.ofList name) then none
      else some ('r' :: '#' :: name, rest.dropWhile isIdentifierContinue)
    else none
  | c :: rest =>
    if isIdentifierStart c then
      some (c :: rest.takeWhile isIdentifierContinue, rest.dropWhile isIdentifierContinue)
    else none
  | [] => none

/-- Openings of string literals; a text that starts so and is no literal is no identifier. -/
def literalOpenings : List (List Char) :=
  ["r\"", "r#\"", "r##", "b\"", "b'", "br\"", "br#", "c\"", "cr\"", "cr#"].map String.toList

/-- A punctuation character.  The apostrophe must begin a lifetime. -/
def punctuationMark (text : List Char) : Option (Token × List Char) :=
  if !startsPunctuation text then none
  else
    match text with
    | '\'' :: rest =>
      match identifier rest with
      | some (_, '\'' :: _) => none
      | some (_, '#' :: _) =>
        if (Literal.dropText ['r', '#'] rest).isSome then some (.punct '\'' true, rest) else none
      | some _ => some (.punct '\'' true, rest)
      | none => none
    | c :: rest => some (.punct c (startsPunctuation rest), rest)
    | [] => none

/-- The token at the head of a text that is no bracket. -/
def leafToken (line : Nat) (text : List Char) : Option (Token × List Char) :=
  match Literal.scan text with
  | some (taken, rest) => some (.literal (String.ofList taken), rest)
  | none =>
    match punctuationMark text with
    | some found => some found
    | none =>
      if literalOpenings.any fun opening => (Literal.dropText opening text).isSome then none
      else (identifier text).map fun (name, rest) => (.ident (String.ofList name) line, rest)

def bracketOf (c : Char) : Option Lexeme :=
  if c == '(' then some (.openGroup .parenthesis)
  else if c == ')' then some (.closeGroup .parenthesis)
  else if c == '[' then some (.openGroup .bracket)
  else if c == ']' then some (.closeGroup .bracket)
  else if c == '\x7b' then some (.openGroup .brace)
  else if c == '\x7d' then some (.closeGroup .brace)
  else none

def linesWithin : Token → Nat
  | .literal text => lineFeeds text.toList
  | _ => 0

/-- All lexemes of a text.  The fuel is the length of the text. -/
def readAll : Nat → Nat → List Char → Option (List Lexeme)
  | 0, _, _ => none
  | fuel + 1, line, text =>
    match skipBlanks (text.length + 1) line text with
    | (_, []) => some []
    | (line, c :: rest) =>
      match documentationComment (c :: rest) with
      | some (inner, content, after) =>
        if hasNoBareReturn content then
          (readAll fuel (line + lineFeeds content) after).map
            fun lexemes => documentation inner content line ++ lexemes
        else none
      | none =>
        match bracketOf c with
        | some bracket => (readAll fuel line rest).map fun lexemes => bracket :: lexemes
        | none =>
          match leafToken line (c :: rest) with
          | some (token, after) =>
            (readAll fuel (line + linesWithin token) after).map
              fun lexemes => .leaf token :: lexemes
          | none => none

/-- An unfinished group: its delimiter and the tokens before it, last first. -/
abbrev Frame := Delimiter × List Token

/-- Nests lexemes by their brackets.  `done` holds the finished tokens of the innermost
group, last first. -/
def nest (frames : List Frame) (done : List Token) : List Lexeme → Option (List Token)
  | [] => if frames.isEmpty then some done.reverse else none
  | .leaf token :: rest => nest frames (token :: done) rest
  | .openGroup delimiter :: rest => nest ((delimiter, done) :: frames) [] rest
  | .closeGroup delimiter :: rest =>
    match frames with
    | (opened, before) :: outer =>
      if opened = delimiter then
        nest outer (.group delimiter done.reverse :: before) rest
      else none
    | [] => none

end Lexeme

def dropByteOrderMark : List Char → List Char
  | '\ufeff' :: rest => rest
  | text => text

def readTokens (text : List Char) : Option (List Token) :=
  let text := dropByteOrderMark text
  match Lexeme.readAll (text.length + 1) 1 text with
  | some lexemes => Lexeme.nest [] [] lexemes
  | none => none

end MarkedRoutes.Source
