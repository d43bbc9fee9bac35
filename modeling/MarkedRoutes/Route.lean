import MarkedRoutes.Method
import MarkedRoutes.Resolution

/-!
# Routes

The model of a compiled program: groups of routes, each route with its method,
template, handler, parameters and the shape of what the handler returns.
-/

namespace MarkedRoutes

open MarkedRoutes.Source

/-- What a handler hands back on success: nothing, a value, or a reply with a status. -/
inductive ReturnKind where
  | unit
  | value
  | reply
  deriving DecidableEq, Repr

/-- The shape of a return type; a fallible handler may fail instead. -/
structure ReturnShape where
  kind : ReturnKind
  isFallible : Bool
  deriving DecidableEq, Repr

/-- The return kind of a success type, or the text of a type that names no response. -/
def returnKindOf : TypeExpr → Except String ReturnKind
  | .tuple [] _ => .ok .unit
  | .parenthesized inner => returnKindOf inner
  | .inferred => .error (TypeExpr.inferred).canonical
  | .never => .error (TypeExpr.never).canonical
  | .opaqueType tokens => .error (TypeExpr.opaqueType tokens).canonical
  | .path path =>
    match path.segments.getLast? with
    | some (.mk "Reply" _) => .ok .reply
    | _ => .ok .value
  | _ => .ok .value

/-- The return shape of a declared output, or the text of a type that names no response. -/
def returnShape : Option TypeExpr → Except String ReturnShape
  | none => .ok ⟨.unit, false⟩
  | some type =>
    match type.resultValue? with
    | some value => (returnKindOf value).map fun kind => ⟨kind, true⟩
    | none => (returnKindOf type).map fun kind => ⟨kind, false⟩

/-- One method and path answered by one handler.  Parameters stand in declaration order. -/
structure Route where
  method : Method
  template : Template
  handlerName : String
  handlerPath : String
  isAsync : Bool
  parameters : List ResolvedParameter
  returns : ReturnShape
  deriving DecidableEq, Repr

/-- A group of routes with its nested groups. -/
structure RouteGroup where
  name : String
  modulePath : String
  base : String
  routes : List Route
  groups : List RouteGroup

mutual

/-- Every route of a group: its own, then those of its nested groups. -/
def RouteGroup.allRoutes : RouteGroup → List Route
  | ⟨_, _, _, routes, groups⟩ => routes ++ allRoutesOf groups

def allRoutesOf : List RouteGroup → List Route
  | [] => []
  | first :: rest => first.allRoutes ++ allRoutesOf rest

end

mutual

/-- The number of routes in a group and its nested groups. -/
def RouteGroup.routeCount : RouteGroup → Nat
  | ⟨_, _, _, routes, groups⟩ => routes.length + routeCountOf groups

def routeCountOf : List RouteGroup → Nat
  | [] => 0
  | first :: rest => first.routeCount + routeCountOf rest

end

end MarkedRoutes
