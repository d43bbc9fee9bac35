import MarkedRoutes.Diagnostic
import MarkedRoutes.Template

/-!
# Binding parameters

Binding decides for every parameter of a handler where its value comes from.
Placeholders of the path take the parameters of their name first, among those
that are unmarked or marked `path`; the others follow their markers, and what is
left unmarked is the body.  There is at most one body and one pipeline
parameter, the pipeline parameter is a shared reference to the request context,
and a parameter may be missing exactly when its placeholder or its type says so.
-/

namespace MarkedRoutes

/-- The handler whose parameters are bound, as messages name it. -/
structure RouteContext where
  route : String
  handler : String
  location : Location
  deriving DecidableEq, Repr

/-- A bound parameter.  `boundName` is the placeholder, query key or header name under
which the value is looked up. -/
structure BoundParameter where
  name : String
  boundName : String
  type : ValueType
  position : Nat
  kind : BindingKind
  isRequired : Bool
  converter : Option String
  deriving DecidableEq, Repr

/-- A parameter whose markers are consistent. -/
structure Candidate where
  name : String
  binding : Option ParameterMarker
  converter : Option String
  parameter : DeclaredParameter

namespace Candidate

/-- The name under which a value is looked up: the marker's, else the parameter's. -/
def boundName (candidate : Candidate) : String :=
  match candidate.binding with
  | some (.path (some name)) => name
  | some (.query (some name)) => name
  | some (.header (some name)) => name
  | _ => candidate.name

/-- Whether a placeholder may take the parameter. -/
def fitsPath (candidate : Candidate) : Bool :=
  match candidate.binding with
  | none => true
  | some (.path _) => true
  | _ => false

def isMarkedPath (candidate : Candidate) : Bool :=
  match candidate.binding with
  | some (.path _) => true
  | _ => false

def bind (candidate : Candidate) (kind : BindingKind) (isRequired : Bool) : BoundParameter where
  name := candidate.name
  boundName := candidate.boundName
  type := candidate.parameter.valueType
  position := candidate.parameter.position
  kind
  isRequired
  converter := candidate.converter

end Candidate

/-- The candidate that a declared parameter is: it has a name, at most one binding marker
and at most one converter. -/
def candidateOf (context : RouteContext) (parameter : DeclaredParameter) :
    Except Diagnostic Candidate :=
  match parameter.name with
  | none =>
    .error (.invalidDeclaration context.location context.handler
      (.patternParameter parameter.position))
  | some name =>
    let conflict (detail : MarkerConflict) : Except Diagnostic Candidate :=
      .error (.conflictingMarkers context.location context.route name detail)
    let bindings := parameter.markers.filter ParameterMarker.isBinding
    let converters := parameter.markers.filterMap ParameterMarker.converter?
    if 1 < bindings.length then conflict (.severalBindings (bindings.map ParameterMarker.label))
    else if 1 < converters.length then conflict .severalConverters
    else .ok ⟨name, bindings.head?, converters.head?, parameter⟩

/-- The candidates of all parameters, or the first problem. -/
def candidatesOf (context : RouteContext) :
    List DeclaredParameter → Except Diagnostic (List Candidate)
  | [] => .ok []
  | first :: rest =>
    match candidateOf context first with
    | .error diagnostic => .error diagnostic
    | .ok candidate => (candidatesOf context rest).map (candidate :: ·)

/-- The first text that occurred before. -/
def firstRepeated? (seen : List String) : List String → Option String
  | [] => none
  | name :: rest => if seen.contains name then some name else firstRepeated? (name :: seen) rest

/-- Takes the first item that passes a test out of a list. -/
def takeFirst? {α : Type} (test : α → Bool) : List α → Option (α × List α)
  | [] => none
  | first :: rest =>
    if test first then some (first, rest)
    else (takeFirst? test rest).map fun (found, others) => (found, first :: others)

/-- Requires that a type is optional exactly when a value may be missing. -/
def checkNullability (context : RouteContext) (candidate : Candidate) (isRequired : Bool) :
    Except Diagnostic Unit :=
  if candidate.parameter.valueType.isOptional = isRequired then
    .error (.nullabilityMismatch context.location context.route candidate.name
      candidate.boundName candidate.parameter.valueType.text isRequired)
  else .ok ()

/-- Requires that a parameter that needs no conversion names no converter. -/
def rejectConverter (context : RouteContext) (candidate : Candidate) (kind : BindingKind) :
    Except Diagnostic Unit :=
  match candidate.converter with
  | none => .ok ()
  | some converter =>
    .error (.conflictingMarkers context.location context.route candidate.name
      (.converterNotForKind converter kind))

/-- Gives every placeholder the first fitting parameter of its name; returns the bound
parameters and the candidates that are left. -/
def bindPlaceholders (context : RouteContext) : List (String × Bool) → List Candidate →
    Except Diagnostic (List BoundParameter × List Candidate)
  | [], pool => .ok ([], pool)
  | (name, isOptional) :: rest, pool =>
    match takeFirst? (fun candidate => candidate.fitsPath && candidate.boundName = name) pool with
    | none =>
      .error (.pathParameterMismatch context.location context.route (.unmatched name))
    | some (candidate, others) => do
      checkNullability context candidate (!isOptional)
      let (bound, pool) ← bindPlaceholders context rest others
      .ok (candidate.bind .path (!isOptional) :: bound, pool)

/-- Parameters sorted by their markers: those bound already, and the candidates for the
pipeline and the body. -/
structure Classified where
  bound : List BoundParameter
  pipelines : List Candidate
  bodies : List Candidate

/-- Sorts the candidates that no placeholder took. -/
def classify (context : RouteContext) : List Candidate → Except Diagnostic Classified
  | [] => .ok ⟨[], [], []⟩
  | candidate :: rest =>
    match candidate.binding with
    | some .provided => do
      rejectConverter context candidate .provided
      let classified ← classify context rest
      .ok { classified with bound := candidate.bind .provided true :: classified.bound }
    | some .pipeline => do
      rejectConverter context candidate .pipeline
      let classified ← classify context rest
      .ok { classified with pipelines := candidate :: classified.pipelines }
    | some (.query _) => do
      let isRequired := !candidate.parameter.valueType.isOptional
      checkNullability context candidate isRequired
      let classified ← classify context rest
      .ok { classified with bound := candidate.bind .query isRequired :: classified.bound }
    | some (.header _) => do
      let isRequired := !candidate.parameter.valueType.isOptional
      checkNullability context candidate isRequired
      let classified ← classify context rest
      .ok { classified with bound := candidate.bind .header isRequired :: classified.bound }
    | _ => do
      rejectConverter context candidate .body
      let classified ← classify context rest
      .ok { classified with bodies := candidate :: classified.bodies }

/-- Binds the pipeline parameter, whose type must be the context handle. -/
def bindPipeline (context : RouteContext) (candidate : Candidate) :
    Except Diagnostic BoundParameter :=
  if candidate.parameter.type.isContextHandle then .ok (candidate.bind .pipeline true)
  else
    .error (.invalidPipelineType context.location context.route candidate.name
      candidate.parameter.valueType.text)

/-- Puts together what classification found, with at most one pipeline and one body. -/
def assemble (context : RouteContext) (classified : Classified) :
    Except Diagnostic (List BoundParameter) := do
  if 1 < classified.pipelines.length then
    .error (.tooManyPipelines context.location context.route
      (classified.pipelines.map Candidate.name))
  else if 1 < classified.bodies.length then
    .error (.tooManyBodies context.location context.route (classified.bodies.map Candidate.name))
  else do
    let pipelines ← classified.pipelines.mapM (bindPipeline context)
    .ok (classified.bound ++ pipelines ++
      classified.bodies.map fun candidate => candidate.bind .body true)

/-- The parameters in declaration order. -/
def byPosition (parameters : List BoundParameter) : List BoundParameter :=
  parameters.mergeSort fun left right => left.position ≤ right.position

/-- Binds every parameter of a handler, or reports the first problem. -/
def bindParameters (context : RouteContext) (signature : HandlerSignature) :
    Except Diagnostic (List BoundParameter) := do
  let invalid (reason : InvalidReason) : Except Diagnostic (List BoundParameter) :=
    .error (.invalidDeclaration context.location context.handler reason)
  if signature.hasReceiver then invalid .receiver
  else if signature.hasGenerics then invalid .generics
  else do
    let pool ← candidatesOf context signature.parameters
    let placeholders := (Template.ofText context.route).placeholders
    match firstRepeated? [] (placeholders.map Prod.fst) with
    | some name => .error (.pathParameterMismatch context.location context.route (.repeated name))
    | none => do
      let (bound, pool) ← bindPlaceholders context placeholders pool
      match pool.find? Candidate.isMarkedPath with
      | some stray =>
        .error (.pathParameterMismatch context.location context.route
          (.stray stray.name stray.boundName))
      | none => do
        let classified ← classify context pool
        let others ← assemble context classified
        .ok (byPosition (bound ++ others))

end MarkedRoutes
