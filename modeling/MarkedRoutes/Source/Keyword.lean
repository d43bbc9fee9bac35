import MarkedRoutes.Source.Token
import MarkedRoutes.Text.IdentifierClass

/-!
# Keywords

Words that are no identifiers unless they are written raw, and the four path
words that cannot be written raw at all.
-/

namespace MarkedRoutes.Source

/-- Words that cannot stand where an identifier is expected. -/
def keywords : List String :=
  ["_", "abstract", "as", "async", "await", "become", "box", "break", "const", "continue",
    "crate", "do", "dyn", "else", "enum", "extern", "false", "final", "fn", "for", "if", "impl",
    "in", "let", "loop", "macro", "match", "mod", "move", "mut", "override", "priv", "pub", "ref",
    "return", "Self", "self", "static", "struct", "super", "trait", "true", "try", "type",
    "typeof", "unsafe", "unsized", "use", "virtual", "where", "while", "yield"]

/-- Whether a word is a keyword; raw identifiers never are. -/
def isKeyword (name : String) : Bool := keywords.contains name

/-- The words that name a place in the module tree. -/
def isPathWord (name : String) : Bool :=
  name == "crate" || name == "self" || name == "super" || name == "Self"

def hasNoRawForm (name : String) : Bool := isPathWord name || name == "_"

/-- Whether a text, taken as it is, can be the name of a bare identifier token. -/
def isBareName (name : String) : Bool := Text.isIdentifierText name.toList

end MarkedRoutes.Source
