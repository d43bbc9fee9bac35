import MarkedRoutes.Route
import MarkedRoutes.TextSource

/-!
# Dispatch functions

A dispatch function serves one route.  It is a straight-line program: it binds
one variable for each parameter, calls the handler with the variables in
declaration order, and turns the result into a response.  Provided values are
bound first, then the values from texts, then the pipeline handle and at last
the body, so that nothing is received for a request that fails before.
-/

namespace MarkedRoutes

/-- The source of the text of a binding kind; the kinds without a text count as headers. -/
def BindingKind.textSource : BindingKind → TextSource
  | .path => .path
  | .query => .query
  | _ => .header

/-- Who turns a text into a value: the registry by type, or the converter at a path. -/
inductive TextConverter where
  | registered
  | named (path : String)
  deriving DecidableEq, Repr

/-- How one variable gets its value. -/
inductive Step where
  | provide (target : String)
  | convert (target : String) (source : TextSource) (key : String) (converter : TextConverter)
      (isRequired : Bool)
  | context (target : String)
  | receive (target : String)
  deriving DecidableEq, Repr

def Step.target : Step → String
  | provide target => target
  | convert target .. => target
  | context target => target
  | receive target => target

/-- The variable that holds a parameter's value. -/
def ResolvedParameter.argument (parameter : ResolvedParameter) : String :=
  "arg_" ++ parameter.name

def ValueSource.textConverter : ValueSource → TextConverter
  | .namedConverter path => .named path
  | _ => .registered

/-- The step that binds a parameter's variable. -/
def ResolvedParameter.step (parameter : ResolvedParameter) : Step :=
  match parameter.kind with
  | .provided => .provide parameter.argument
  | .pipeline => .context parameter.argument
  | .body => .receive parameter.argument
  | kind =>
    .convert parameter.argument kind.textSource parameter.boundName
      parameter.source.textConverter parameter.isRequired

/-- The steps of the parameters whose kind passes a test. -/
def stepsWhere (test : BindingKind → Bool) (parameters : List ResolvedParameter) : List Step :=
  (parameters.filter fun parameter => test parameter.kind).map ResolvedParameter.step

/-- The steps of all parameters, in the order in which they run. -/
def dispatchSteps (parameters : List ResolvedParameter) : List Step :=
  stepsWhere (· == .provided) parameters ++ (stepsWhere BindingKind.isText parameters ++
    (stepsWhere (· == .pipeline) parameters ++ stepsWhere (· == .body) parameters))

/-- A dispatch function.  The handler is called with the argument variables, awaited when
it is asynchronous, and its result is answered by the shape it returns. -/
structure DispatchFunction where
  name : String
  method : Method
  route : String
  handlerPath : String
  steps : List Step
  arguments : List String
  isAsync : Bool
  returns : ReturnShape
  deriving DecidableEq, Repr

/-- The dispatch function of a route under a given name. -/
def Route.dispatchFunction (route : Route) (name : String) : DispatchFunction where
  name
  method := route.method
  route := route.template.text
  handlerPath := route.handlerPath
  steps := dispatchSteps route.parameters
  arguments := route.parameters.map ResolvedParameter.argument
  isAsync := route.isAsync
  returns := route.returns

end MarkedRoutes
