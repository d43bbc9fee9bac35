import MarkedRoutes.Source.Parser
import MarkedRoutes.Text.Split

/-!
# Markers

A marker is an attribute that the library reads.  On an item it declares a route
group or binds a handler to a method and path; on a parameter it says where the
value comes from or which converter reads it.  The last name of an attribute's
path decides whether it is a marker, and a marker whose arguments do not fit is
malformed.
-/

namespace MarkedRoutes

open MarkedRoutes.Source

/-- A marker on an item.  The method is kept as written. -/
inductive Marker where
  | group (base : String)
  | method (method path : String)
  deriving DecidableEq, Repr

/-- A marker on a parameter.  The name of a path, query or header marker is missing when
the parameter's own name is meant. -/
inductive ParameterMarker where
  | path (name : Option String)
  | query (name : Option String)
  | header (name : Option String)
  | body
  | provided
  | pipeline
  | convert (converter : String)
  deriving DecidableEq, Repr

namespace ParameterMarker

/-- Every marker but `convert` says where a value comes from. -/
def isBinding : ParameterMarker → Bool
  | convert _ => false
  | _ => true

/-- The converter that a marker names, when it names one. -/
def converter? : ParameterMarker → Option String
  | convert converter => some converter
  | _ => none

/-- The marker as it is named in messages. -/
def label : ParameterMarker → String
  | path _ => "#[path]"
  | query _ => "#[query]"
  | header _ => "#[header]"
  | body => "#[body]"
  | provided => "#[provided]"
  | pipeline => "#[pipeline]"
  | convert _ => "#[convert]"

end ParameterMarker

/-- Why the arguments of a marker do not fit.  The texts name the attribute as written. -/
inductive MarkerFault where
  | expectedString
  | unexpectedToken
  | expectedParenthesizedString
  | takesNoArguments
  | expectedMethod
  | expectedWord
  | endedBeforeWord
  | expectedIdentifier
  | endedBeforeIdentifier
  | missingArguments (written : String)
  | valueForArguments (written : String)
  deriving DecidableEq, Repr

def MarkerFault.message : MarkerFault → String
  | expectedString => "expected string literal"
  | unexpectedToken => "unexpected token"
  | expectedParenthesizedString => "expected a parenthesized string literal"
  | takesNoArguments => "this marker takes no arguments"
  | expectedMethod => "expected `METHOD` or `METHOD, \"/path\"`"
  | expectedWord => "expected ident"
  | endedBeforeWord => "unexpected end of input, expected ident"
  | expectedIdentifier => "expected identifier"
  | endedBeforeIdentifier => "unexpected end of input, expected identifier"
  | missingArguments written =>
    "expected attribute arguments in parentheses: " ++ written
  | valueForArguments written => "expected parentheses: " ++ written

/-- How an attribute that takes arguments is shown. -/
def attributeText (marked : Attribute) : String :=
  (if marked.isInner then "#![" else "#[") ++ (if marked.rooted then "::" else "") ++
    Text.joinTexts "::" marked.path ++ "(...)]"

/-- The string literal that opens a token sequence. -/
def leadingString? : List Token → Option (String × List Token)
  | .literal text :: rest => (Literal.stringValue? text).map fun value => (value, rest)
  | _ => none

/-- The optional text of a marker: nothing, or one string literal in brackets. -/
def optionalText (marked : Attribute) : Except MarkerFault String :=
  match marked.input with
  | .bare => .ok ""
  | .list [] => .ok ""
  | .list tokens =>
    match leadingString? tokens with
    | some (value, []) => .ok value
    | some (_, _ :: _) => .error .unexpectedToken
    | none => .error .expectedString
  | .value _ => .error .expectedParenthesizedString

/-- The optional name of a parameter marker; an empty text is no name. -/
def optionalName (marked : Attribute) : Except MarkerFault (Option String) :=
  (optionalText marked).map fun text => if text.isEmpty then none else some text

def withoutArguments (marked : Attribute) : Except MarkerFault Unit :=
  match marked.input with
  | .bare => .ok ()
  | _ => .error .takesNoArguments

/-- The argument tokens of a marker that must have some brackets. -/
def requiredArguments (marked : Attribute) : Except MarkerFault (List Token) :=
  match marked.input with
  | .list tokens => .ok tokens
  | .bare => .error (.missingArguments (attributeText marked))
  | .value _ => .error (.valueForArguments (attributeText marked))

/-- Drops one comma, when there is one. -/
def dropComma (tokens : List Token) : List Token := (dropMark? ',' tokens).getD tokens

/-- The arguments of a `route` marker: a method word, then an optional comma with an
optional path, then an optional comma. -/
def readRouteArguments : List Token → Except MarkerFault (String × String)
  | .ident method _ :: rest =>
    let (path, rest) :=
      match dropMark? ',' rest with
      | some after =>
        match leadingString? after with
        | some (path, after) => (path, after)
        | none => ("", after)
      | none => ("", rest)
    if (dropComma rest).isEmpty then .ok (unraw method, path) else .error .expectedMethod
  | [] => .error .endedBeforeWord
  | _ => .error .expectedWord

def readConverterPath [SourceParser] (tokens : List Token) : Except MarkerFault String :=
  match SourceParser.path tokens with
  | .ok (path, []) => .ok path.canonical
  | .ok (_, _ :: _) => .error .unexpectedToken
  | .error .atEnd => .error .endedBeforeIdentifier
  | .error .unexpected => .error .expectedIdentifier

/-- The markers that name a method by themselves. -/
def methodMarkers : List String := ["get", "post", "put", "delete", "patch", "head", "options"]

/-- The item marker that an attribute is, when it is one. -/
def itemMarker? (marked : Attribute) : Option (Except MarkerFault Marker) :=
  if marked.name = "route_group" then some ((optionalText marked).map .group)
  else if marked.name = "route" then
    some do
      let (method, path) ← readRouteArguments (← requiredArguments marked)
      .ok (.method method path)
  else if methodMarkers.contains marked.name then
    some ((optionalText marked).map fun path =>
      .method (String.ofList (marked.name.toList.map Char.toUpper)) path)
  else none

/-- The parameter marker that an attribute is, when it is one. -/
def parameterMarker? [SourceParser] (marked : Attribute) :
    Option (Except MarkerFault ParameterMarker) :=
  match marked.name with
  | "path" => some ((optionalName marked).map .path)
  | "query" => some ((optionalName marked).map .query)
  | "header" => some ((optionalName marked).map .header)
  | "body" => some ((withoutArguments marked).map fun _ => .body)
  | "provided" => some ((withoutArguments marked).map fun _ => .provided)
  | "pipeline" => some ((withoutArguments marked).map fun _ => .pipeline)
  | "convert" => some do
    let tokens ← requiredArguments marked
    (readConverterPath tokens).map .convert
  | _ => none

/-- The markers that read well, in attribute order. -/
def goodMarkers {α : Type} (read : Attribute → Option (Except MarkerFault α))
    (attributes : List Attribute) : List α :=
  attributes.filterMap fun marked =>
    match read marked with
    | some (.ok marker) => some marker
    | _ => none

/-- The markers that are malformed, in attribute order, with their names. -/
def malformedMarkers {α : Type} (read : Attribute → Option (Except MarkerFault α))
    (attributes : List Attribute) : List (String × MarkerFault) :=
  attributes.filterMap fun marked =>
    match read marked with
    | some (.error fault) => some (marked.name, fault)
    | _ => none

end MarkedRoutes
