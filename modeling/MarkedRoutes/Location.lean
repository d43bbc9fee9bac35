/-!
# Source locations
-/

namespace MarkedRoutes

/-- The file and line a declaration stands on. -/
structure Location where
  file : String
  line : Nat
  deriving DecidableEq, Repr

/-- The text `file:line`. -/
def Location.text (location : Location) : String := location.file ++ ":" ++ toString location.line

end MarkedRoutes
