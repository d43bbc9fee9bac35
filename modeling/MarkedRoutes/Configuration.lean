import MarkedRoutes.Configuration.Document
import MarkedRoutes.Source.Parser
import MarkedRoutes.Text.Blank

/-!
# Configuration

Where the compiled source is mounted, how the generated program reaches the
runtime and is called, and whether the written file is formatted.  Values come
in layers, later ones winning: defaults, a setting document, the environment,
and flags.
-/

namespace MarkedRoutes

open MarkedRoutes.Source

/-- The settings of a compilation. -/
structure Configuration where
  modulePath : String
  runtimePath : String
  entryFunction : String
  formats : Bool
  deriving DecidableEq, Repr

/-- What is wrong with a configuration. -/
inductive ConfigurationFault where
  | modulePath (text : String)
  | runtimePath (text : String)
  | entryFunction (text : String)
  deriving DecidableEq, Repr

def ConfigurationFault.message : ConfigurationFault → String
  | modulePath text => "module_path `" ++ text ++ "` is not a Rust path"
  | runtimePath text => "runtime_path `" ++ text ++ "` is not a Rust path"
  | entryFunction text => "register_fn `" ++ text ++ "` is not a Rust identifier"

namespace Configuration

/-- The settings that hold when nothing is set. -/
def standard : Configuration :=
  { modulePath := "crate::routes"
    runtimePath := "::routecraft"
    entryFunction := "register_routes"
    formats := false }

/-- Applies one setting of a document; unknown keys and values of the wrong kind fail. -/
def applySetting (configuration : Configuration) : String × Setting → Option Configuration
  | ("module_path", .text value) => some { configuration with modulePath := value }
  | ("runtime_path", .text value) => some { configuration with runtimePath := value }
  | ("register_fn", .text value) => some { configuration with entryFunction := value }
  | ("format", .flag value) => some { configuration with formats := value }
  | _ => none

def distinctKeys : List (String × Setting) → Bool
  | [] => true
  | first :: rest => !(rest.any fun other => other.1 == first.1) && distinctKeys rest

/-- The configuration that a document gives over the defaults. -/
def ofDocument? (text : String) : Option Configuration := do
  let settings ← settingsOfText? text
  if distinctKeys settings then settings.foldlM applySetting standard else none

/-- Whether a text of the environment switches something on. -/
def isAffirmative (text : String) : Bool :=
  ["1", "true", "yes", "on"].contains
    (String.ofList ((Text.trimBlank text.toList).map Char.toLower))

def withEnvironment (configuration : Configuration) (lookup : String → Option String) :
    Configuration where
  modulePath := (lookup "ROUTECRAFT_MODULE_PATH").getD configuration.modulePath
  runtimePath := (lookup "ROUTECRAFT_RUNTIME_PATH").getD configuration.runtimePath
  entryFunction := (lookup "ROUTECRAFT_REGISTER_FN").getD configuration.entryFunction
  formats := ((lookup "ROUTECRAFT_FORMAT").map isAffirmative).getD configuration.formats

/-- The first setting that names no path or identifier. -/
def fault? [SourceParser] (configuration : Configuration) : Option ConfigurationFault :=
  if (pathOfText? configuration.modulePath).isNone then
    some (.modulePath configuration.modulePath)
  else if (pathOfText? configuration.runtimePath).isNone then
    some (.runtimePath configuration.runtimePath)
  else if (identifierOfText? configuration.entryFunction).isNone then
    some (.entryFunction configuration.entryFunction)
  else none

end Configuration

end MarkedRoutes
