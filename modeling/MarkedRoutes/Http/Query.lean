import MarkedRoutes.Text.Percent
import MarkedRoutes.Text.Split

/-!
# Queries

A query is a list of named values between ampersands.  A plus stands for a
space, and names and values are percent-encoded; bytes that encode no text are
shown as replacement characters.
-/

namespace MarkedRoutes.Http

/-- A character of a query with a plus read as a space. -/
def plusToSpace (c : Char) : Char := if c = '+' then ' ' else c

/-- The text that a name or value of a query stands for. -/
def decodeComponent (written : List Char) : String :=
  Text.ofUtf8Lossy (Text.percentDecode (Text.utf8 (written.map plusToSpace)))

/-- The name and value of one piece of a query.  Without an equals sign the value is empty. -/
def queryPair (piece : List Char) : String × String :=
  let (name, rest) := piece.span (· != '=')
  (decodeComponent name, decodeComponent (rest.drop 1))

/-- The named values of a query in order. -/
def queryPairs (query : List Char) : List (String × String) :=
  ((Text.splitOnChar '&' query).filter fun piece => !piece.isEmpty).map queryPair

end MarkedRoutes.Http
