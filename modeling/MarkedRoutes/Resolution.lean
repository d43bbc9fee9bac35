import MarkedRoutes.Binding
import MarkedRoutes.Resolution.ModulePath
import MarkedRoutes.Resolution.TypeText

/-!
# Resolving value sources

A text parameter that names a converter must find an implementation of it in the
loaded sources whose target is the parameter's value type.  Without a name the
converter is looked up by type when a request is served, as providers always
are.
-/

namespace MarkedRoutes

/-- How a parameter's value is obtained when a request is served. -/
inductive ValueSource where
  | namedConverter (path : String)
  | converterRegistry
  | providerRegistry
  | context
  | payload
  deriving DecidableEq, Repr

/-- A parameter with its value source. -/
structure ResolvedParameter where
  name : String
  boundName : String
  type : ValueType
  position : Nat
  kind : BindingKind
  isRequired : Bool
  source : ValueSource
  deriving DecidableEq, Repr

/-- The converter that a path written in a module names, checked against the value type. -/
def namedConverter (context : RouteContext) (modulePath : String) (parameter : BoundParameter)
    (written : String) (converters : List ConverterDeclaration) :
    Except Diagnostic ValueSource :=
  let path := absolutePath modulePath written
  let found := converters.filter fun declared =>
    absolutePath declared.modulePath declared.converter = path
  if found.isEmpty then
    .error (.unknownConverter context.location context.route parameter.name written)
  else if found.any fun declared => sameType declared.target parameter.type.base then
    .ok (.namedConverter path)
  else
    .error (.converterTypeMismatch context.location context.route parameter.name written
      parameter.type.base (found.map ConverterDeclaration.target))

def valueSource (context : RouteContext) (modulePath : String)
    (converters : List ConverterDeclaration) (parameter : BoundParameter) :
    Except Diagnostic ValueSource :=
  match parameter.kind with
  | .provided => .ok .providerRegistry
  | .pipeline => .ok .context
  | .body => .ok .payload
  | _ =>
    match parameter.converter with
    | some written => namedConverter context modulePath parameter written converters
    | none => .ok .converterRegistry

def resolveParameter (context : RouteContext) (modulePath : String)
    (converters : List ConverterDeclaration) (parameter : BoundParameter) :
    Except Diagnostic ResolvedParameter :=
  (valueSource context modulePath converters parameter).map fun source =>
    { name := parameter.name
      boundName := parameter.boundName
      type := parameter.type
      position := parameter.position
      kind := parameter.kind
      isRequired := parameter.isRequired
      source }

/-- Resolves all parameters of a handler, or reports the first problem. -/
def resolveParameters (context : RouteContext) (modulePath : String)
    (converters : List ConverterDeclaration) :
    List BoundParameter → Except Diagnostic (List ResolvedParameter)
  | [] => .ok []
  | first :: rest =>
    match resolveParameter context modulePath converters first with
    | .error diagnostic => .error diagnostic
    | .ok resolved =>
      (resolveParameters context modulePath converters rest).map (resolved :: ·)

end MarkedRoutes
