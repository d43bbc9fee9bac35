import MarkedRoutes.Text.Case

/-!
# HTTP methods

The seven methods that a handler can be bound to.  Markers may write them in
any mixture of upper and lower case.
-/

namespace MarkedRoutes

/-- A method that a route can answer. -/
inductive Method where
  | get
  | post
  | put
  | delete
  | patch
  | head
  | options
  deriving DecidableEq, Repr

namespace Method

/-- Every method, in the order in which names are tried. -/
def all : List Method := [get, post, put, delete, patch, head, options]

def name : Method → String
  | get => "GET"
  | post => "POST"
  | put => "PUT"
  | delete => "DELETE"
  | patch => "PATCH"
  | head => "HEAD"
  | options => "OPTIONS"

/-- The method with a given name, ignoring the case of ASCII letters. -/
def ofName? (written : String) : Option Method :=
  all.find? fun method => Text.sameFolded method.name written

theorem ofName?_name (method : Method) : ofName? method.name = some method := by
  cases method <;> decide +kernel

end Method

end MarkedRoutes
