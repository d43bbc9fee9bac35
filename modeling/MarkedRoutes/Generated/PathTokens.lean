import MarkedRoutes.Source.Parser
import MarkedRoutes.Text.Split

/-!
# Paths in generated code

A path is kept as text until it is written.  Where the text is a path its tokens
are taken as they are.  Otherwise some segment is a keyword, and each such
segment is written as a raw identifier.
-/

namespace MarkedRoutes

open MarkedRoutes.Source

/-- Why a text cannot be written in generated code. -/
inductive NameFault where
  | unwritableSegment (text : String)
  | unwritableEntry (text : String)
  deriving DecidableEq, Repr

/-- The name of one segment: bare when it is an identifier or names a place in the module
tree, raw when it is a keyword.  A segment that is raw already, or has blanks around it, is
no name. -/
def segmentName (segment : String) : Except NameFault String :=
  if !isBareName segment then .error (.unwritableSegment segment)
  else if (identifierOfText? segment).isSome || isPathWord segment then .ok segment
  else if hasNoRawForm segment then .error (.unwritableSegment segment)
  else .ok ("r#" ++ segment)

def segmentNameTokens : List (List Char) → Except NameFault (List Token)
  | [] => .ok []
  | [last] => (segmentName (String.ofList last)).map fun name => [word name]
  | first :: second :: rest => do
    let name ← segmentName (String.ofList first)
    let others ← segmentNameTokens (second :: rest)
    .ok (word name :: (operator [':', ':'] ++ others))

def pathTokens [SourceParser] (text : String) : Except NameFault (List Token) :=
  match pathOfText? text with
  | some path => .ok path.tokens
  | none =>
    match Text.dropFront? [':', ':'] text.toList with
    | some rest =>
      (segmentNameTokens (Text.splitOnColons rest)).map fun tokens =>
        operator [':', ':'] ++ tokens
    | none => segmentNameTokens (Text.splitOnColons text.toList)

end MarkedRoutes
