import MarkedRoutes.Binding
import MarkedRoutes.Discovery
import MarkedRoutes.Json.Value
import MarkedRoutes.Route

/-!
# Outlines

What a source declares, what is discovered in it and how its routes bind their
parameters, as JSON for tools.  Unlike a listing of routes, an outline tells
everything that the compiler knows at a stage.
-/

namespace MarkedRoutes

open MarkedRoutes.Source

/-- The elements of a list, each as JSON. -/
def outlines {α : Type} (outline : α → Json) (items : List α) : Json := .array (items.map outline)

def Source.Visibility.name : Visibility → String
  | .everywhere => "public"
  | .restricted => "restricted"
  | .inherited => "inherited"

def Marker.outline : Marker → Json
  | .group base => .object [("group", .string base)]
  | .method written path => .object [("method", .string written), ("path", .string path)]

def ParameterMarker.argument? : ParameterMarker → Option String
  | .path name => name
  | .query name => name
  | .header name => name
  | .convert converter => some converter
  | _ => none

def ParameterMarker.outline (marker : ParameterMarker) : Json :=
  .object [("label", .string marker.label), ("binding", .boolean marker.isBinding),
    ("arg", .ofText? marker.argument?)]

def DeclaredParameter.outline (parameter : DeclaredParameter) : Json :=
  .object [("name", .ofText? parameter.name), ("type", .string parameter.valueType.text),
    ("base", .string parameter.valueType.base),
    ("nullable", .boolean parameter.valueType.isOptional),
    ("position", .ofNat parameter.position),
    ("markers", outlines ParameterMarker.outline parameter.markers)]

def HandlerSignature.outline (signature : HandlerSignature) : Json :=
  .object [("params", outlines DeclaredParameter.outline signature.parameters),
    ("output", .ofText? (signature.output.map TypeExpr.canonical)),
    ("async", .boolean signature.isAsync), ("receiver", .boolean signature.hasReceiver),
    ("generics", .boolean signature.hasGenerics)]

mutual

def Declaration.outline : Declaration → Json
  | declaration@⟨name, kind, visibility, markers, children, signature, hasBody, location⟩ =>
    .object [("ident", .string name), ("kind", .string kind.name),
      ("visibility", .string visibility.name), ("markers", outlines Marker.outline markers),
      ("children", .array (childOutlines children)),
      ("signature", (signature.map HandlerSignature.outline).getD .null),
      ("inline", .boolean hasBody), ("is_group", .boolean declaration.isGroup),
      ("location", .string location.text)]

def childOutlines : List Declaration → List Json
  | [] => []
  | first :: rest => first.outline :: childOutlines rest

end

def SourceUnit.outline (unit : SourceUnit) : Json :=
  .object [("module_path", .string unit.modulePath), ("file", .string unit.file),
    ("items", outlines Declaration.outline unit.items)]

def ConverterDeclaration.outline (declared : ConverterDeclaration) : Json :=
  .object [("converter", .string declared.converter), ("target", .string declared.target),
    ("module_path", .string declared.modulePath), ("location", .string declared.location.text)]

def sourceOutline (units : List SourceUnit) (converters : List ConverterDeclaration) : Json :=
  .object [("units", outlines SourceUnit.outline units),
    ("converters", outlines ConverterDeclaration.outline converters)]

def DiscoveredHandler.outline (handler : DiscoveredHandler) : Json :=
  .object [("ident", .string handler.name), ("handler_path", .string handler.path),
    ("method", .string handler.method), ("full_path", .string handler.route),
    ("location", .string handler.location.text),
    ("params", .ofNat handler.signature.parameters.length)]

mutual

def DiscoveredGroup.outline : DiscoveredGroup → Json
  | ⟨name, modulePath, base, handlers, groups, location⟩ =>
    .object [("name", .string name), ("module_path", .string modulePath),
      ("prefix", .string base), ("handlers", outlines DiscoveredHandler.outline handlers),
      ("groups", .array (groupOutlines groups)), ("location", .string location.text)]

def groupOutlines : List DiscoveredGroup → List Json
  | [] => []
  | first :: rest => first.outline :: groupOutlines rest

end

/-- A parameter after binding. -/
def BoundParameter.outline (parameter : BoundParameter) : Json :=
  .object [("name", .string parameter.name), ("bound_name", .string parameter.boundName),
    ("type", .string parameter.type.text), ("position", .ofNat parameter.position),
    ("kind", .string parameter.kind.name), ("required", .boolean parameter.isRequired),
    ("converter", .ofText? parameter.converter)]

/-- Where a parameter's value comes from. -/
def ValueSource.outline : ValueSource → Json
  | .namedConverter path => .object [("explicit", .string path)]
  | .converterRegistry => .string "converter_registry"
  | .providerRegistry => .string "provider_registry"
  | .context => .string "context"
  | .payload => .string "payload"

def ResolvedParameter.outline (parameter : ResolvedParameter) : Json :=
  .object [("name", .string parameter.name), ("bound_name", .string parameter.boundName),
    ("type", .string parameter.type.text), ("position", .ofNat parameter.position),
    ("kind", .string parameter.kind.name), ("required", .boolean parameter.isRequired),
    ("source", parameter.source.outline)]

def ReturnKind.name : ReturnKind → String
  | unit => "unit"
  | value => "value"
  | reply => "reply"

def ReturnShape.outline (shape : ReturnShape) : Json :=
  .object [("kind", .string shape.kind.name), ("fallible", .boolean shape.isFallible)]

def Route.outline (route : Route) : Json :=
  .object [("method", .string route.method.name), ("path", .string route.template.text),
    ("handler", .string route.handlerPath), ("ident", .string route.handlerName),
    ("async", .boolean route.isAsync), ("returns", route.returns.outline),
    ("params", outlines ResolvedParameter.outline route.parameters)]

mutual

def RouteGroup.outline : RouteGroup → Json
  | group@⟨name, modulePath, base, routes, groups⟩ =>
    .object [("name", .string name), ("module_path", .string modulePath),
      ("prefix", .string base), ("route_count", .ofNat group.routeCount),
      ("routes", outlines Route.outline routes), ("groups", .array (routeGroupOutlines groups))]

def routeGroupOutlines : List RouteGroup → List Json
  | [] => []
  | first :: rest => first.outline :: routeGroupOutlines rest

end

end MarkedRoutes
