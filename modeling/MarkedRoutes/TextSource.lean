/-!
# Sources of texts

The parts of a request in which the text of a parameter stands.
-/

namespace MarkedRoutes

/-- Where the text of a parameter comes from. -/
inductive TextSource where
  | path
  | query
  | header
  deriving DecidableEq, Repr

def TextSource.name : TextSource → String
  | path => "path"
  | query => "query"
  | header => "header"

end MarkedRoutes
