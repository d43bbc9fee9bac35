/-!
# Binding kinds
-/

namespace MarkedRoutes

/-- Where the value of a handler's parameter comes from when a request is served. -/
inductive BindingKind where
  | path
  | query
  | header
  | body
  | provided
  | pipeline
  deriving DecidableEq, Repr

namespace BindingKind

/-- The kind as it is named in messages and listings. -/
def name : BindingKind → String
  | path => "PATH"
  | query => "QUERY"
  | header => "HEADER"
  | body => "BODY"
  | provided => "PROVIDED"
  | pipeline => "PIPELINE"

/-- Path, query and header values arrive as text and need a converter. -/
def isText : BindingKind → Bool
  | path => true
  | query => true
  | header => true
  | _ => false

end BindingKind

end MarkedRoutes
