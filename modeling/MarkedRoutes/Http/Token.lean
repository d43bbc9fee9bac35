import MarkedRoutes.Text.Case

/-!
# Tokens

Request methods and header names are tokens: ASCII letters, digits and fifteen
signs.  The method of a request is any token, and case counts in it.
-/

namespace MarkedRoutes.Http

/-- The signs that may stand in a token. -/
def tokenSigns : List Char := "!#$%&'*+-.^_`|~".toList

/-- Whether a character may stand in a token. -/
def isTokenChar (c : Char) : Bool := c.isAlphanum || tokenSigns.contains c

def isToken (text : String) : Bool := !text.toList.isEmpty && text.toList.all isTokenChar

/-- The method of a request. -/
structure RequestMethod where
  name : String
  valid : isToken name = true
  deriving DecidableEq

def RequestMethod.ofName? (name : String) : Option RequestMethod :=
  if valid : isToken name = true then some ⟨name, valid⟩ else none

end MarkedRoutes.Http
