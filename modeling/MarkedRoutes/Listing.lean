import MarkedRoutes.Json.Print
import MarkedRoutes.Route

/-!
# Route listings

The routes of a program with their parameters, as a table for readers and as
JSON for tools.
-/

namespace MarkedRoutes

/-- A text filled up with blanks to a width. -/
def padRight (width : Nat) (text : String) : String :=
  text ++ String.ofList (List.replicate (width - text.length) ' ')

def ValueSource.converter? : ValueSource → Option String
  | namedConverter path => some path
  | _ => none

/-- The kind of a parameter with the converter that it names. -/
def ResolvedParameter.sourceLabel (parameter : ResolvedParameter) : String :=
  match parameter.source.converter? with
  | some path => parameter.kind.name ++ " via " ++ path
  | none => parameter.kind.name

def ResolvedParameter.tableLine (parameter : ResolvedParameter) : String :=
  "          " ++ parameter.name ++ ": " ++ parameter.type.text ++ " [" ++
    parameter.sourceLabel ++ "]" ++ (if parameter.isRequired then "" else " (optional)") ++ "\n"

def Route.tableLines (route : Route) : String :=
  padRight 7 route.method.name ++ " " ++ route.template.text ++ " -> " ++ route.handlerPath ++
    "\n" ++ String.join (route.parameters.map ResolvedParameter.tableLine)

def routeTable (groups : List RouteGroup) : String :=
  String.join ((allRoutesOf groups).map Route.tableLines)

def ResolvedParameter.json (parameter : ResolvedParameter) : Json :=
  .ofMembers
    [("name", .string parameter.name), ("bound_name", .string parameter.boundName),
      ("type", .string parameter.type.text), ("kind", .string parameter.kind.name),
      ("required", .boolean parameter.isRequired),
      ("converter", .ofText? parameter.source.converter?)]

def Route.json (route : Route) : Json :=
  .ofMembers
    [("method", .string route.method.name), ("path", .string route.template.text),
      ("handler", .string route.handlerPath), ("async", .boolean route.isAsync),
      ("params", .array (route.parameters.map ResolvedParameter.json))]

def routeJson (groups : List RouteGroup) : Json :=
  .ofMembers [("routes", .array ((allRoutesOf groups).map Route.json))]

end MarkedRoutes
