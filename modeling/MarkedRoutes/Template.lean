import MarkedRoutes.Text.Split

/-!
# Path templates

A route path is split at its slashes into literal parts and placeholders.
`{name}` is a required placeholder and `{name?}` an optional one; every other
part is a literal, the empty part of a doubled slash included.
-/

namespace MarkedRoutes

/-- One part of a route path between slashes. -/
inductive Part where
  | literal (text : String)
  | placeholder (name : String) (isOptional : Bool)
  deriving DecidableEq, Repr

namespace Part

/-- The name between braces, when the braces enclose the whole text. -/
def braced? : List Char → Option (List Char)
  | '\x7b' :: rest => if rest.getLast? = some '\x7d' then some rest.dropLast else none
  | _ => none

/-- The part that a text between slashes is. -/
def ofText (text : List Char) : Part :=
  match braced? text with
  | none => .literal (String.ofList text)
  | some inner =>
    if inner.getLast? = some '?' then .placeholder (String.ofList inner.dropLast) true
    else .placeholder (String.ofList inner) false

def text : Part → List Char
  | literal text => text.toList
  | placeholder name isOptional =>
    '\x7b' :: (name.toList ++ (if isOptional then ['?', '\x7d'] else ['\x7d']))

end Part

/-- A route path: its text and its parts. -/
structure Template where
  text : String
  parts : List Part
  deriving DecidableEq, Repr

namespace Template

def ofText (text : String) : Template :=
  ⟨text, (Text.splitOnChar '/' text.toList).map Part.ofText⟩

/-- The text that the parts are written as. -/
def print (parts : List Part) : String :=
  String.ofList (Text.join ['/'] (parts.map Part.text))

/-- The placeholders in order, each with whether it is optional. -/
def placeholders (template : Template) : List (String × Bool) :=
  template.parts.filterMap fun part =>
    match part with
    | .placeholder name isOptional => some (name, isOptional)
    | .literal _ => none

/-- Whether the first placeholder of a name is optional. -/
def isOptional? (template : Template) (name : String) : Option Bool :=
  (template.placeholders.find? fun placeholder => placeholder.1 = name).map Prod.snd

end Template

end MarkedRoutes
