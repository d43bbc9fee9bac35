import MarkedRoutes.Serving.Body
import MarkedRoutes.Serving.Registry

/-!
# Arguments of handlers

What a handler is given for its parameters: values that converters read from
texts of the request, values that providers supply, the decoded body, or the
request itself.  A converter is looked up before the text, so that a missing one
is reported even when the text is absent.
-/

namespace MarkedRoutes.Serving

open MarkedRoutes.Http

def sourceText? (request : Request) : TextSource → String → Option String
  | .path, name => request.pathParameter? name
  | .query, name => request.queryParameter? name
  | .header, name => request.header? name

/-- The value that a converter reads from a text, if there is one. -/
def convertOptionalWith {α : Type} (converter : Converter α) (text : Option String) : Option α :=
  text.bind converter.read

/-- The value that a converter must read from a text. -/
def convertWith {α : Type} (converter : Converter α) (text : Option String) (name : String)
    (source : TextSource) : Except DispatchFault α :=
  match convertOptionalWith converter text with
  | some value => .ok value
  | none => .error (.parameter name source)

variable {κ : Type} [HostTypes κ] [DecidableEq κ]

def registeredConverter (registries : Registries κ) (type : TypeCode κ) :
    Except DispatchFault (Converter type.Carrier) :=
  match registries.converters.get? type with
  | some converter => .ok converter
  | none => .error (.missingConverter type.name)

/-- The value that the registered converter must read from a text. -/
def convert (registries : Registries κ) (type : TypeCode κ) (text : Option String)
    (name : String) (source : TextSource) : Except DispatchFault type.Carrier := do
  convertWith (← registeredConverter registries type) text name source

/-- The value that the registered converter reads from a text, if there is one. -/
def convertOptional (registries : Registries κ) (type : TypeCode κ) (text : Option String) :
    Except DispatchFault (Option type.Carrier) := do
  .ok (convertOptionalWith (← registeredConverter registries type) text)

/-- The value that the registered provider of a type supplies. -/
def provide (registries : Registries κ) (type : TypeCode κ) (request : Request) :
    Except DispatchFault type.Carrier :=
  match registries.providers.get? type with
  | some provider => .ok (provider request)
  | none => .error (.missingProvider type.name)

/-- A parameter whose text stands in a request.  Its value is read by the converter that it
names, or else by the one that is registered for its type. -/
structure TextParameter (κ : Type) [HostTypes κ] where
  source : TextSource
  name : String
  type : TypeCode κ
  converter : Option (Converter type.Carrier)
  isRequired : Bool

/-- An argument of a handler. -/
inductive Argument (κ : Type) [HostTypes κ] where
  | value (type : TypeCode κ) (value : type.Carrier)
  | absent
  | request (request : Request)
  | body (value : Json)

def Argument.ofOption (type : TypeCode κ) : Option type.Carrier → Argument κ
  | some found => .value type found
  | none => .absent

def TextParameter.bindText (registries : Registries κ) (parameter : TextParameter κ)
    (text : Option String) : Except DispatchFault (Argument κ) :=
  match parameter.converter, parameter.isRequired with
  | some converter, true =>
    (convertWith converter text parameter.name parameter.source).map
      (Argument.value parameter.type)
  | some converter, false =>
    .ok (Argument.ofOption parameter.type (convertOptionalWith converter text))
  | none, true =>
    (convert registries parameter.type text parameter.name parameter.source).map
      (Argument.value parameter.type)
  | none, false =>
    (convertOptional registries parameter.type text).map (Argument.ofOption parameter.type)

/-- Where a handler's argument comes from. -/
inductive ArgumentSource (κ : Type) [HostTypes κ] where
  | provided (type : TypeCode κ)
  | text (parameter : TextParameter κ)
  | request
  | body (receive : Request → Except DispatchFault Json)

def ArgumentSource.bind (registries : Registries κ) (request : Request) :
    ArgumentSource κ → Except DispatchFault (Argument κ)
  | .provided type => (provide registries type request).map (Argument.value type)
  | .text parameter =>
    parameter.bindText registries (sourceText? request parameter.source parameter.name)
  | .request => .ok (.request request)
  | .body receive => (receive request).map Argument.body

/-- The named arguments of a handler in order; the first fault ends the binding. -/
def bindArguments (registries : Registries κ) (request : Request)
    (sources : List (String × ArgumentSource κ)) :
    Except DispatchFault (List (String × Argument κ)) :=
  sources.mapM fun source => (source.2.bind registries request).map fun bound => (source.1, bound)

end MarkedRoutes.Serving
