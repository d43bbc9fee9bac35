import MarkedRoutes.Serving.Pattern.Text
import MarkedRoutes.Text.Percent
import MarkedRoutes.Text.Split

/-!
# Matching paths

The template of a route is compiled to a pattern.  A segment becomes a slash with
the segment's text behind it, a placeholder a slash with a capturing group for
one segment, and an optional placeholder may be missing together with its slash.
Empty segments of a template do not count, and a slash at the end of a path is
ignored.  A template without segments matches the single slash only.
-/

namespace MarkedRoutes.Serving

/-- The text that a piece of a path stands for; a piece that decodes to no text stands for
itself. -/
def decodePiece (piece : List Char) : String :=
  (Text.ofUtf8? (Text.percentDecode (Text.utf8 piece))).getD (String.ofList piece)

/-- What stands between the braces of a placeholder. -/
def bracedName? (segment : List Char) : Option (List Char) :=
  (Text.dropFront? ['\x7b'] segment).bind (Text.dropBack? ['\x7d'])

/-- The pattern `/([^/]+)` of one segment that is captured. -/
def requiredPattern : List Char := ['/', '(', '[', '^', '/', ']', '+', ')']

/-- The pattern `(?:/([^/]+))?` of one segment that is captured unless it is missing. -/
def optionalPattern : List Char := ['(', '?', ':'] ++ requiredPattern ++ [')', '?']

/-- The pattern of a segment as a text, with the name that it captures. -/
def segmentPattern (segment : List Char) : List Char × Option String :=
  match bracedName? segment with
  | some inner =>
    match Text.dropBack? ['?'] inner with
    | some name => (optionalPattern, some (String.ofList name))
    | none => (requiredPattern, some (String.ofList inner))
  | none => ('/' :: escapePattern segment, none)

def templateSegments (template : String) : List (List Char) :=
  (Text.splitOnChar '/' template.toList).filter fun segment => !segment.isEmpty

/-- The names that a template captures, in order. -/
def capturedNames (template : String) : List String :=
  (templateSegments template).filterMap fun segment => (segmentPattern segment).2

def templatePattern (template : String) : List Char :=
  let lead := '^' :: (templateSegments template).flatMap fun segment => (segmentPattern segment).1
  let isRoot := (capturedNames template).isEmpty && lead.length == 1
  lead ++ ((if isRoot then ['/'] else ['/', '?']) ++ ['$'])

/-- A compiled template: its pattern, and the names of the groups in order. -/
structure PathMatcher where
  pattern : Pattern
  names : List String
  deriving DecidableEq, Repr

/-- What compiles patterns.  It refuses a pattern whose compiled form is larger than its
limit. -/
class PatternEngine where
  compiledSize : Pattern → Nat
  sizeLimit : Nat

/-- The engine that compiles patterns of any size. -/
@[reducible]
def PatternEngine.unlimited : PatternEngine := ⟨fun _ => 0, 0⟩

/-- The pattern of a text, if it can be read and is not too large. -/
def PatternEngine.compile? [PatternEngine] (text : List Char) : Option Pattern :=
  (Pattern.ofText? text).filter fun pattern => compiledSize pattern ≤ sizeLimit

namespace PathMatcher

/-- The matcher of a template, if its pattern can be compiled. -/
def ofTemplate? [PatternEngine] (template : String) : Option PathMatcher :=
  (PatternEngine.compile? (templatePattern template)).map fun pattern =>
    ⟨pattern, capturedNames template⟩

/-- The names whose groups took part in a match, each with what its group captured.  Groups
are numbered from `number` on. -/
def namedCaptures (captures : Captures) (number : Nat) :
    List String → List (String × List Char)
  | [] => []
  | name :: others =>
    match captures.lookup number with
    | some piece => (name, piece) :: namedCaptures captures (number + 1) others
    | none => namedCaptures captures (number + 1) others

/-- The values that a path has for the names, if it matches. -/
def match? (matcher : PathMatcher) (path : String) : Option (List (String × String)) :=
  (matcher.pattern.captures? path.toList).map fun captures =>
    (namedCaptures captures 1 matcher.names).map fun named => (named.1, decodePiece named.2)

end PathMatcher

end MarkedRoutes.Serving
