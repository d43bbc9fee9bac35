/-!
# Logged events

What the library reports beside its answers: an event has a level, a message
and named fields.  Functions that report return their events in order.
-/

namespace MarkedRoutes

/-- How serious an event is. -/
inductive Level where
  | warning
  | error
  deriving DecidableEq, Repr

def Level.name : Level → String
  | warning => "WARN"
  | error => "ERROR"

/-- One logged event. -/
structure Event where
  level : Level
  message : String
  fields : List (String × String)
  deriving DecidableEq, Repr

end MarkedRoutes
