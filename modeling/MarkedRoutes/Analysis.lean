import MarkedRoutes.Discovery
import MarkedRoutes.Route

/-!
# Analysing sources

Analysis discovers the groups of a set of sources and compiles every handler to
a route.  A handler that cannot be compiled is reported and the others go on, so
one run reports everything; any report fails the analysis.
-/

namespace MarkedRoutes

/-- Compiles one handler of a group's module, or reports the first problem with it. -/
def compileHandler (converters : List ConverterDeclaration) (modulePath : String)
    (handler : DiscoveredHandler) : Except Diagnostic Route :=
  match Method.ofName? handler.method with
  | none => .error (.unsupportedMethod handler.location handler.route handler.method)
  | some method =>
    match returnShape handler.signature.output with
    | .error found =>
      .error (.missingReturnType handler.location handler.route handler.name found)
    | .ok returns => do
      let context : RouteContext := ⟨handler.route, handler.name, handler.location⟩
      let bound ← bindParameters context handler.signature
      let parameters ← resolveParameters context modulePath converters bound
      .ok
        { method
          template := .ofText handler.route
          handlerName := handler.name
          handlerPath := handler.path
          isAsync := handler.signature.isAsync
          parameters
          returns }

/-- The routes that compile and the reports of the handlers that do not. -/
def compileHandlers (converters : List ConverterDeclaration) (modulePath : String) :
    List DiscoveredHandler → List Route × List Diagnostic
  | [] => ([], [])
  | first :: rest =>
    let (routes, diagnostics) := compileHandlers converters modulePath rest
    match compileHandler converters modulePath first with
    | .ok route => (route :: routes, diagnostics)
    | .error diagnostic => (routes, diagnostic :: diagnostics)

mutual

def compileGroup (converters : List ConverterDeclaration) :
    DiscoveredGroup → RouteGroup × List Diagnostic
  | ⟨name, modulePath, base, handlers, groups, _⟩ =>
    let (routes, own) := compileHandlers converters modulePath handlers
    let (nested, inner) := compileGroups converters groups
    (⟨name, modulePath, base, routes, nested⟩, own ++ inner)

def compileGroups (converters : List ConverterDeclaration) :
    List DiscoveredGroup → List RouteGroup × List Diagnostic
  | [] => ([], [])
  | first :: rest =>
    let (group, own) := compileGroup converters first
    let (groups, others) := compileGroups converters rest
    (group :: groups, own ++ others)

end

/-- What an analysis returns: the groups or everything reported, and the logged events. -/
structure Analysis where
  result : Except (List Diagnostic) (List RouteGroup)
  events : List Event

def analyze (sources : SourceSet) : Analysis :=
  let (discovered, survey) := discover sources
  let (groups, diagnostics) := compileGroups sources.converters discovered
  match survey.diagnostics ++ diagnostics with
  | [] => ⟨.ok groups, survey.events⟩
  | reported => ⟨.error reported, survey.events⟩

end MarkedRoutes
