import MarkedRoutes.Source.Item
import MarkedRoutes.Source.Lexer
import MarkedRoutes.Source.Reading

/-!
# Parsers

Source files are read by a parser of the language that stands outside the library.
The library depends on what the parser makes of three things: a text that may be a
source file, tokens that may begin with a path, and tokens that may be the items of
a file.  Every definition that reads a source takes the parser as an instance.
-/

namespace MarkedRoutes.Source

/-- Why a text is no source file: the line on which the parser stops, and what it says. -/
structure SyntaxFault where
  line : Nat
  message : String
  deriving DecidableEq, Repr

/-- A parser.  `path` returns the tokens behind the path that it reads. -/
class SourceParser where
  file : String → Except SyntaxFault (List Item)
  path : List Token → Except Fault (Path × List Token)
  areItems : List Token → Bool

/-- The path that a text is, when it is one. -/
def pathOfText? [SourceParser] (text : String) : Option Path :=
  match readTokens text.toList with
  | some tokens => (finish (SourceParser.path tokens)).toOption
  | none => none

/-- The identifier that a text is, blanks around it apart; keywords are none. -/
def identifierOfText? (text : String) : Option String :=
  match readTokens text.toList with
  | some [.ident name _] => if isKeyword name then none else some name
  | _ => none

end MarkedRoutes.Source
