import MarkedRoutes.Text.Alphanumeric
import MarkedRoutes.Text.Blank

/-!
# Token trees

Source text is read as trees of tokens: identifiers, punctuation characters,
literals and delimited groups.  A punctuation character remembers whether the
next one is joined to it, so `::` is a joined colon and a second colon.

Two texts belong to a token sequence.  The *spaced* text separates tokens by one
space unless they are joined.  The *canonical* text keeps a space only where two
word characters would otherwise touch, and it is the form in which types and
paths are compared.
-/

namespace MarkedRoutes.Source

/-- The three pairs of brackets that delimit a group. -/
inductive Delimiter where
  | parenthesis
  | bracket
  | brace
  deriving DecidableEq, Repr

/-- One token tree.  An identifier carries its text (with `r#` when it is raw)
and the line it stands on; generated identifiers stand on line zero. -/
inductive Token where
  | ident (name : String) (line : Nat)
  | punct (mark : Char) (joined : Bool)
  | literal (text : String)
  | group (delimiter : Delimiter) (content : List Token)
  deriving Repr, Inhabited

namespace Token

/-- Punctuation that is joined to the character after it. -/
def isJoined : Token → Bool
  | punct _ joined => joined
  | _ => false

mutual

def spacedOne : Token → List Char
  | ident name _ => name.toList
  | punct mark _ => [mark]
  | literal text => text.toList
  | group .parenthesis content => '(' :: (spaced content ++ [')'])
  | group .bracket content => '[' :: (spaced content ++ [']'])
  | group .brace [] => ['\x7b', ' ', '\x7d']
  | group .brace (first :: rest) => ['\x7b', ' '] ++ (spaced (first :: rest) ++ [' ', '\x7d'])

/-- The spaced text of a sequence: one space between tokens that are not joined. -/
def spaced : List Token → List Char
  | [] => []
  | [last] => spacedOne last
  | first :: second :: rest =>
    spacedOne first ++ ((if first.isJoined then [] else [' ']) ++ spaced (second :: rest))

end

mutual

/-- The number of tokens in a tree, delimiters included. -/
def size : Token → Nat
  | group _ content => sizeAll content + 2
  | _ => 1

/-- The number of tokens in a sequence, delimiters included. -/
def sizeAll : List Token → Nat
  | [] => 0
  | first :: rest => first.size + sizeAll rest

end

end Token

def spacedText (tokens : List Token) : String := String.ofList (Token.spaced tokens)

/-- Letters, digits, the underscore and the apostrophe of a lifetime. -/
def isWordChar (c : Char) : Bool := Text.isAlphanumeric c || c == '_' || c == '\''

/-- Drops blanks, keeping one space where two word characters meet across them.
`previous` is the last character kept. -/
def squeeze (previous : Option Char) : List Char → List Char
  | [] => []
  | c :: rest =>
    if Text.isBlank c then
      match previous, rest.find? fun next => !Text.isBlank next with
      | some before, some after =>
        if isWordChar before && isWordChar after then ' ' :: squeeze (some ' ') rest
        else squeeze previous rest
      | _, _ => squeeze previous rest
    else c :: squeeze (some c) rest

def canonicalText (tokens : List Token) : String :=
  String.ofList (squeeze none (Token.spaced tokens))

/-- The tokens of an operator: its characters, all but the last joined. -/
def operator : List Char → List Token
  | [] => []
  | [last] => [.punct last false]
  | first :: second :: rest => .punct first true :: operator (second :: rest)

/-- An identifier of generated code. -/
def word (name : String) : Token := .ident name 0

/-- Identifier text without the mark of a raw identifier. -/
def unraw (name : String) : String :=
  match name.toList with
  | 'r' :: '#' :: rest => String.ofList rest
  | _ => name

def lifetimeTokens (name : String) : List Token := [.punct '\'' true, word name]

end MarkedRoutes.Source
