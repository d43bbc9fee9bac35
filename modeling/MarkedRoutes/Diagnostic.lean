import MarkedRoutes.Binding.Kind
import MarkedRoutes.Declaration
import MarkedRoutes.Text.Quoted

/-!
# Diagnostics

Everything that can be wrong with a set of routes files, as causes.  A diagnostic
has a kind, a location and a message; a report lists several of them.
-/

namespace MarkedRoutes

/-- Why a declaration is not valid. -/
inductive InvalidReason where
  | malformedMarker (marker : String) (fault : MarkerFault)
  | malformedParameterMarker (parameter marker : String) (fault : MarkerFault)
  | groupIsNoModule (kind : DeclarationKind)
  | groupHasNoBody
  | groupRepeated (modulePath : String)
  | controlInBase (base : String)
  | methodOnNoFunction (kind : DeclarationKind)
  | severalMethods
  | controlInPath (path : String)
  | receiver
  | generics
  | patternParameter (position : Nat)
  deriving DecidableEq, Repr

def InvalidReason.message : InvalidReason → String
  | malformedMarker marker fault => "malformed #[" ++ marker ++ "]: " ++ fault.message
  | malformedParameterMarker parameter marker fault =>
    "parameter `" ++ parameter ++ "` has a malformed #[" ++ marker ++ "]: " ++ fault.message
  | groupIsNoModule kind =>
    "#[route_group] must decorate a module, found a " ++ kind.name ++
      "; a route group is a singleton"
  | groupHasNoBody => "#[route_group] requires an inline module body"
  | groupRepeated modulePath => "route group `" ++ modulePath ++ "` is declared more than once"
  | controlInBase base =>
    "route group prefix " ++ Text.quoted base ++ " contains control characters"
  | methodOnNoFunction kind => "method markers apply to functions, found a " ++ kind.name
  | severalMethods => "a handler may carry only one method marker"
  | controlInPath path => "route path " ++ Text.quoted path ++ " contains control characters"
  | receiver => "handlers must be free functions without a `self` receiver"
  | generics => "handlers may not declare type or const generics"
  | patternParameter position =>
    "parameter " ++ toString (position + 1) ++ " must be a plain identifier pattern"

/-- Which declaration generated code cannot reach. -/
inductive Unreachable where
  | group
  | handler
  deriving DecidableEq, Repr

/-- The wording of what must be visible. -/
def Unreachable.message : Unreachable → String
  | group => "route group modules must be `pub` or `pub(crate)`"
  | handler => "handlers must be `pub` or `pub(crate)`"

/-- How path parameters and placeholders disagree. -/
inductive PlaceholderMismatch where
  | repeated (placeholder : String)
  | unmatched (placeholder : String)
  | stray (parameter boundName : String)
  deriving DecidableEq, Repr

/-- A name as a placeholder shows it. -/
def bracedName (name : String) : String := "\x7b" ++ name ++ "\x7d"

def PlaceholderMismatch.message : PlaceholderMismatch → String
  | repeated placeholder => "placeholder `" ++ bracedName placeholder ++ "` appears more than once"
  | unmatched placeholder =>
    "placeholder `" ++ bracedName placeholder ++ "` has no matching parameter"
  | stray parameter boundName =>
    "parameter `" ++ parameter ++ "` is bound to `" ++ bracedName boundName ++
      "`, which the path does not declare"

/-- How the markers of one parameter contradict each other. -/
inductive MarkerConflict where
  | severalBindings (labels : List String)
  | severalConverters
  | converterNotForKind (converter : String) (kind : BindingKind)
  deriving DecidableEq, Repr

def MarkerConflict.message : MarkerConflict → String
  | severalBindings labels =>
    "carries more than one binding marker: " ++ Text.joinTexts ", " labels
  | severalConverters => "names more than one converter"
  | converterNotForKind converter kind =>
    "#[convert(" ++ converter ++ ")] only applies to PATH, QUERY or HEADER parameters, " ++
      "this one is " ++ kind.name

/-- A problem with the routes of a program. -/
inductive Diagnostic where
  | invalidDeclaration (location : Location) (name : String) (reason : InvalidReason)
  | inaccessibleDeclaration (location : Location) (name : String) (what : Unreachable)
  | pathParameterMismatch (location : Location) (route : String) (detail : PlaceholderMismatch)
  | tooManyBodies (location : Location) (route : String) (parameters : List String)
  | tooManyPipelines (location : Location) (route : String) (parameters : List String)
  | invalidPipelineType (location : Location) (route parameter found : String)
  | nullabilityMismatch (location : Location) (route parameter boundName type : String)
      (isRequired : Bool)
  | conflictingMarkers (location : Location) (route parameter : String) (conflict : MarkerConflict)
  | converterTypeMismatch (location : Location) (route parameter converter expected : String)
      (found : List String)
  | unknownConverter (location : Location) (route parameter converter : String)
  | unsupportedMethod (location : Location) (route method : String)
  | missingReturnType (location : Location) (route handler found : String)
  | unreadable (location : Location) (message : String)
  deriving DecidableEq, Repr

/-- The kind of a diagnostic. -/
inductive DiagnosticKind where
  | invalidDeclaration
  | inaccessibleDeclaration
  | pathParameterMismatch
  | tooManyBodies
  | tooManyPipelines
  | invalidPipelineType
  | nullabilityMismatch
  | conflictingMarkers
  | converterTypeMismatch
  | unknownConverter
  | unsupportedMethod
  | missingReturnType
  | unreadable
  deriving DecidableEq, Repr

def DiagnosticKind.name : DiagnosticKind → String
  | invalidDeclaration => "InvalidDeclaration"
  | inaccessibleDeclaration => "InaccessibleDeclaration"
  | pathParameterMismatch => "PathParamMismatch"
  | tooManyBodies => "TooManyBodyParams"
  | tooManyPipelines => "TooManyPipelineParams"
  | invalidPipelineType => "InvalidPipelineType"
  | nullabilityMismatch => "NullabilityMismatch"
  | conflictingMarkers => "ConflictingBindingMarkers"
  | converterTypeMismatch => "ConverterTypeMismatch"
  | unknownConverter => "UnknownConverter"
  | unsupportedMethod => "UnsupportedHttpMethod"
  | missingReturnType => "MissingReturnType"
  | unreadable => "Parse"

namespace Diagnostic

def kind : Diagnostic → DiagnosticKind
  | invalidDeclaration .. => .invalidDeclaration
  | inaccessibleDeclaration .. => .inaccessibleDeclaration
  | pathParameterMismatch .. => .pathParameterMismatch
  | tooManyBodies .. => .tooManyBodies
  | tooManyPipelines .. => .tooManyPipelines
  | invalidPipelineType .. => .invalidPipelineType
  | nullabilityMismatch .. => .nullabilityMismatch
  | conflictingMarkers .. => .conflictingMarkers
  | converterTypeMismatch .. => .converterTypeMismatch
  | unknownConverter .. => .unknownConverter
  | unsupportedMethod .. => .unsupportedMethod
  | missingReturnType .. => .missingReturnType
  | unreadable .. => .unreadable

def location : Diagnostic → Location
  | invalidDeclaration location .. => location
  | inaccessibleDeclaration location .. => location
  | pathParameterMismatch location .. => location
  | tooManyBodies location .. => location
  | tooManyPipelines location .. => location
  | invalidPipelineType location .. => location
  | nullabilityMismatch location .. => location
  | conflictingMarkers location .. => location
  | converterTypeMismatch location .. => location
  | unknownConverter location .. => location
  | unsupportedMethod location .. => location
  | missingReturnType location .. => location
  | unreadable location _ => location

/-- What a nullability mismatch says. -/
def nullabilityMessage (boundName type : String) (isRequired : Bool) : String :=
  if isRequired then
    "declared `" ++ type ++ "` but `" ++ bracedName boundName ++
      "` is not optional in the path; write `" ++ bracedName (boundName ++ "?") ++ "`"
  else
    "`" ++ bracedName (boundName ++ "?") ++
      "` is optional in the path, so the parameter must be `Option<" ++ type ++ ">`"

/-- The opening of a message about a route. -/
def aboutRoute (route : String) : String := "route `" ++ route ++ "`: "

/-- What a diagnostic says after its location. -/
def detail : Diagnostic → String
  | invalidDeclaration _ name reason =>
    "invalid declaration `" ++ name ++ "`: " ++ reason.message
  | inaccessibleDeclaration _ name what =>
    "`" ++ name ++ "` is not reachable from generated code: " ++ what.message
  | pathParameterMismatch _ route mismatch =>
    aboutRoute route ++ "path parameters do not match the template: " ++ mismatch.message
  | tooManyBodies _ route parameters =>
    aboutRoute route ++ "at most one body parameter is allowed, found " ++
      Text.joinTexts ", " parameters
  | tooManyPipelines _ route parameters =>
    aboutRoute route ++ "at most one pipeline parameter is allowed, found " ++
      Text.joinTexts ", " parameters
  | invalidPipelineType _ route parameter found =>
    aboutRoute route ++ "pipeline parameter `" ++ parameter ++
      "` must be `&CallContext`, found `" ++ found ++ "`"
  | nullabilityMismatch _ route parameter boundName type isRequired =>
    aboutRoute route ++ "parameter `" ++ parameter ++ "`: " ++
      nullabilityMessage boundName type isRequired
  | conflictingMarkers _ route parameter conflict =>
    aboutRoute route ++ "parameter `" ++ parameter ++ "`: " ++ conflict.message
  | converterTypeMismatch _ route parameter converter expected found =>
    aboutRoute route ++ "parameter `" ++ parameter ++ "` has type `" ++ expected ++
      "` but converter `" ++ converter ++ "` converts " ++
      Text.joinTexts ", " (found.map fun target => "`" ++ target ++ "`")
  | unknownConverter _ route parameter converter =>
    aboutRoute route ++ "parameter `" ++ parameter ++ "` names converter `" ++ converter ++
      "` but no `impl Converter<_> for " ++ converter ++ "` was found"
  | unsupportedMethod _ route method =>
    aboutRoute route ++ "unsupported HTTP method `" ++ method ++ "`"
  | missingReturnType _ route handler found =>
    aboutRoute route ++ "handler `" ++ handler ++
      "` must declare a concrete return type, found `" ++ found ++ "`"
  | unreadable _ message => message

def message (diagnostic : Diagnostic) : String :=
  diagnostic.location.text ++ ": " ++ diagnostic.detail

end Diagnostic

def reportLine (diagnostic : Diagnostic) : String :=
  "[" ++ diagnostic.kind.name ++ "] " ++ diagnostic.message ++ "\n"

def report (diagnostics : List Diagnostic) : String :=
  "\n❌ Route compilation failed. " ++ toString diagnostics.length ++ " issue(s) found:\n\n" ++
    String.join (diagnostics.map reportLine) ++
    "\nPlease fix the declarations above before building.\n"

end MarkedRoutes
