import MarkedRoutes.Generated.Program
import MarkedRoutes.Serving.Router

/-!
# Running generated programs

A generated program names variables, converters and handlers, and no types: the
parameters of a handler fix the types of the variables it is called with.  A
dispatch function runs its steps in order, each of which binds one variable, and
the first fault ends the run before the handler is called.  The entry point
registers routes by following calls from name to name.  A program that names
something unknown, or uses it against its type, does not fit its surroundings.
-/

namespace MarkedRoutes

open MarkedRoutes.Http
open MarkedRoutes.Serving
open MarkedRoutes.Source (unraw)

/-! ### Surroundings -/

/-- The type of a handler's parameter: values of a type, the request, or a body, whose values
are kept as JSON. -/
inductive ParameterType (κ : Type) [HostTypes κ] where
  | value (type : TypeCode κ)
  | request
  | body (type : BodyType Json)

/-- What a handler returns on success: nothing, a value, or a reply. -/
inductive Outcome where
  | unit
  | value (value : Serialized)
  | reply (reply : Reply Serialized)

/-- A handler that may change a state of type `σ`.  The call of an asynchronous handler has to
be awaited, and only a fallible one fails. -/
structure Handler (κ σ : Type) [HostTypes κ] where
  parameterTypes : List (ParameterType κ)
  isAsync : Bool
  isFallible : Bool
  call : List (Argument κ) → StateM σ (Except HandlerError Outcome)

/-- What stands around a program: the registries that it is given, and the converters and
handlers at the paths that it names. -/
structure Surroundings (κ σ : Type) [HostTypes κ] where
  registries : Registries κ
  converter? : String → (type : TypeCode κ) → Option (Converter type.Carrier)
  handler? : String → Option (Handler κ σ)

/-- Why a run gives no response: a fault, or a program that does not fit its surroundings. -/
inductive Stop where
  | fault (fault : DispatchFault)
  | unfit
  deriving DecidableEq, Repr

/-- A value of the program, without which it does not fit. -/
def fitting {α : Type} : Option α → Except Stop α
  | some value => .ok value
  | none => .error .unfit

variable {κ σ : Type} [HostTypes κ] [DecidableEq κ]

/-! ### Dispatch functions -/

/-- Variables with their values, the latest first. -/
abbrev Bindings (κ : Type) [HostTypes κ] := List (String × Argument κ)

/-- What a run does, in the order in which it happens: it evaluates steps, and it calls a
handler, whose future it awaits or not. -/
inductive Action (κ : Type) [HostTypes κ] where
  | evaluate (step : Step)
  | call (handlerPath : String) (arguments : List (Argument κ)) (isAwaited : Bool)

/-- A run of a dispatch function: what it does, how it ends, and the state that it leaves. -/
structure Run (κ σ : Type) [HostTypes κ] where
  actions : List (Action κ)
  result : Except Stop Response
  state : σ

/-- Where a step takes its value from when its variable has a type. -/
def Step.source? (surroundings : Surroundings κ σ) :
    Step → ParameterType κ → Option (ArgumentSource κ)
  | .provide _, .value type => some (.provided type)
  | .convert _ source key .registered isRequired, .value type =>
    some (.text ⟨source, key, type, none, isRequired⟩)
  | .convert _ source key (.named path) isRequired, .value type =>
    (surroundings.converter? path type).map fun converter =>
      .text ⟨source, key, type, some converter, isRequired⟩
  | .context _, .request => some .request
  | .receive _, .body type => some (.body (Serving.receive type))
  | _, _ => none

/-- The value of a step whose variable has a type. -/
def Step.value (surroundings : Surroundings κ σ) (request : Request) (step : Step)
    (type : ParameterType κ) : Except Stop (Argument κ) := do
  let source ← fitting (step.source? surroundings type)
  (source.bind surroundings.registries request).mapError Stop.fault

/-- Runs steps in order from the variables bound so far, up to the first that fails; returns
the steps that were evaluated with what came of them. -/
def runSteps (surroundings : Surroundings κ σ) (types : List (String × ParameterType κ))
    (request : Request) : Bindings κ → List Step → List Step × Except Stop (Bindings κ)
  | bindings, [] => ([], .ok bindings)
  | bindings, step :: rest =>
    match (fitting (types.lookup step.target)).bind (step.value surroundings request) with
    | .error stop => ([step], .error stop)
    | .ok value =>
      let (evaluated, result) :=
        runSteps surroundings types request ((step.target, value) :: bindings) rest
      (step :: evaluated, result)

/-- The response to what a handler returns, by the kind that the program expects. -/
def ReturnKind.response : ReturnKind → Outcome → Except Stop Response
  | .unit, .unit => .ok respondEmpty
  | .value, .value returned => (respond returned).mapError Stop.fault
  | .reply, .reply returned => (respondReply returned).mapError Stop.fault
  | _, _ => .error .unfit

/-- The response to what a handler returns or fails with. -/
def ReturnShape.response (shape : ReturnShape) :
    Except HandlerError Outcome → Except Stop Response
  | .ok outcome => shape.kind.response outcome
  | .error error => .error (.fault (.handler error))

namespace DispatchFunction

def variableTypes (function : DispatchFunction) (handler : Handler κ σ) :
    List (String × ParameterType κ) :=
  function.arguments.zip handler.parameterTypes

def calls (function : DispatchFunction) (handler : Handler κ σ) : Bool :=
  function.arguments.length == handler.parameterTypes.length &&
    function.isAsync == handler.isAsync && function.returns.isFallible == handler.isFallible

def handler (function : DispatchFunction) (surroundings : Surroundings κ σ) :
    Except Stop (Handler κ σ) := do
  let handler ← fitting (surroundings.handler? function.handlerPath)
  if function.calls handler then .ok handler else .error .unfit

/-- The arguments that a function has for a handler once its steps have run. -/
def boundArguments (function : DispatchFunction) (bindings : Bindings κ) :
    Except Stop (List (Argument κ)) :=
  function.arguments.mapM fun name => fitting (bindings.lookup name)

def run (function : DispatchFunction) (surroundings : Surroundings κ σ) (request : Request)
    (state : σ) : Run κ σ :=
  match function.handler surroundings with
  | .error stop => ⟨[], .error stop, state⟩
  | .ok handler =>
    let (evaluated, bindings) :=
      runSteps surroundings (function.variableTypes handler) request [] function.steps
    match bindings.bind function.boundArguments with
    | .error stop => ⟨evaluated.map Action.evaluate, .error stop, state⟩
    | .ok arguments =>
      let (returned, state) := (handler.call arguments).run state
      ⟨evaluated.map Action.evaluate ++
          [.call function.handlerPath arguments function.isAsync],
        function.returns.response returned, state⟩

end DispatchFunction

/-! ### Registration -/

/-- A route as a running program registers it. -/
structure Registration where
  method : Method
  path : String
  function : DispatchFunction
  deriving DecidableEq, Repr

namespace GeneratedProgram

/-- The function that a name means beside the entry point.  Identifiers are the same with and
without the mark of a raw one, and a name that several functions have means none of them. -/
def item? (program : GeneratedProgram) (name : String) : Option GeneratedItem :=
  if unraw program.entry = unraw name then none
  else
    match program.items.filter fun item => unraw item.name = unraw name with
    | [item] => some item
    | _ => none

def dispatch? (program : GeneratedProgram) (name : String) : Option DispatchFunction :=
  match program.item? name with
  | some (.dispatch function) => some function
  | _ => none

def registration? (program : GeneratedProgram) (name : String) : Option RegistrationFunction :=
  match program.item? name with
  | some (.registration function) => some function
  | _ => none

/-- What statements register, in order.  The fuel bounds the depth of the calls. -/
def registrationsOf (program : GeneratedProgram) :
    Nat → List RegistrationCall → Option (List Registration)
  | _, [] => some []
  | fuel, .route method path dispatch :: rest => do
    let function ← program.dispatch? dispatch
    let others ← program.registrationsOf fuel rest
    some (⟨method, path, function⟩ :: others)
  | 0, .group _ :: _ => none
  | fuel + 1, .group registration :: rest => do
    let function ← program.registration? registration
    let inner ← program.registrationsOf fuel function.calls
    let others ← program.registrationsOf (fuel + 1) rest
    some (inner ++ others)
termination_by fuel calls => (fuel, calls.length)

/-- What the entry point registers, in order; nothing is known of a program whose calls lead
nowhere or around. -/
def registrations? (program : GeneratedProgram) : Option (List Registration) :=
  program.registrationsOf program.items.length (program.calls.map RegistrationCall.group)

end GeneratedProgram

end MarkedRoutes
