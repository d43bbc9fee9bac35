import MarkedRoutes.Http.Status
import MarkedRoutes.Json.Fault
import MarkedRoutes.Text.Split
import MarkedRoutes.TextSource

/-!
# Faults of dispatch

Why a route does not answer a request as it should.  Faults of parameters, of
the body and of what is registered are found before the handler runs.  A fault of
a handler is an error with layers of context, and the outermost layer that
carries a status decides the status and the message that the client sees.
-/

namespace MarkedRoutes.Serving

open MarkedRoutes.Http

/-- An error of a handler that stands for a status. -/
structure StatusError where
  status : Status
  message : String
  deriving DecidableEq, Repr

def StatusError.text (error : StatusError) : String := error.status.text ++ ": " ++ error.message

def StatusError.notFound (message : String) : StatusError := ⟨.notFound, message⟩

def StatusError.badRequest (message : String) : StatusError := ⟨.badRequest, message⟩

/-- One layer of an error: an error with a status, or a plain text. -/
inductive ErrorLayer where
  | status (error : StatusError)
  | plain (message : String)
  deriving DecidableEq, Repr

namespace ErrorLayer

def text : ErrorLayer → String
  | status error => error.text
  | plain message => message

/-- The status that a layer carries, with its message. -/
def statusError? : ErrorLayer → Option StatusError
  | status error => some error
  | plain _ => none

end ErrorLayer

/-- An error of a handler: its layers of context, outermost first, and its root. -/
structure HandlerError where
  context : List ErrorLayer
  root : ErrorLayer
  deriving DecidableEq, Repr

namespace HandlerError

def ofLayer (root : ErrorLayer) : HandlerError := ⟨[], root⟩

def within (error : HandlerError) (layer : ErrorLayer) : HandlerError :=
  { error with context := layer :: error.context }

/-- The layers from the outermost to the root. -/
def layers (error : HandlerError) : List ErrorLayer := error.context ++ [error.root]

/-- The texts of the layers from the outermost to the root. -/
def text (error : HandlerError) : String := Text.joinTexts ": " (error.layers.map ErrorLayer.text)

def statusError? (error : HandlerError) : Option StatusError :=
  error.layers.findSome? ErrorLayer.statusError?

end HandlerError

/-- Why a route does not answer a request as it should. -/
inductive DispatchFault where
  | parameter (name : String) (source : TextSource)
  | missingConverter (typeName : String)
  | missingProvider (typeName : String)
  | malformedBody (typeName : String) (reason : Json.PlacedFault)
  | unserializable (reason : Json.Fault)
  | handler (error : HandlerError)
  deriving DecidableEq, Repr

namespace DispatchFault

def kind : DispatchFault → String
  | parameter .. => "MissingOrInvalidParameter"
  | missingConverter _ => "MissingConverter"
  | missingProvider _ => "MissingProvider"
  | malformedBody .. => "MalformedBody"
  | unserializable _ => "ResponseSerialization"
  | handler _ => "Handler"

def message : DispatchFault → String
  | parameter name source => source.name ++ " parameter `" ++ name ++ "` is missing or invalid"
  | missingConverter typeName => "no converter registered for `" ++ typeName ++ "`"
  | missingProvider typeName => "no provider registered for `" ++ typeName ++ "`"
  | malformedBody typeName reason =>
    "request body is not a valid `" ++ typeName ++ "`: " ++ reason.message
  | unserializable reason => "response could not be serialized: " ++ reason.message
  | handler error => "handler failed: " ++ error.text

/-- The status of the answer to a request that fails. -/
def status : DispatchFault → Status
  | unserializable _ => .internalError
  | handler error => (error.statusError?.map StatusError.status).getD .internalError
  | _ => .badRequest

/-- What the client is told.  A handler's error is only shown when it carries a status. -/
def publicMessage : DispatchFault → String
  | handler error => (error.statusError?.map StatusError.message).getD "internal server error"
  | fault => fault.message

/-- Whether something was not registered. -/
def isConfigurationGap : DispatchFault → Bool
  | missingConverter _ => true
  | missingProvider _ => true
  | _ => false

end DispatchFault

end MarkedRoutes.Serving
