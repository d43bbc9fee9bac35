import MarkedRoutes.Analysis
import MarkedRoutes.Generated.File

/-!
# Compiling sources

The whole way from sources to a generated file: analysis first, then generation.
-/

namespace MarkedRoutes

open MarkedRoutes.Source (SourceParser)

/-- Why a compilation fails. -/
inductive CompileFault where
  | diagnostics (diagnostics : List Diagnostic)
  | generation (fault : GenerationFault)
  deriving DecidableEq, Repr

def compile [SourceParser] (configuration : Configuration) (sources : SourceSet) :
    Except CompileFault GeneratedFile × List Event :=
  let analysis := analyze sources
  match analysis.result with
  | .error diagnostics => (.error (.diagnostics diagnostics), analysis.events)
  | .ok groups =>
    let (result, events) := generate configuration groups
    (result.mapError .generation, analysis.events ++ events)

/-- Compiles one source text mounted at the configured module path. -/
def compileText [SourceParser] (configuration : Configuration) (file text : String) :
    Except CompileFault GeneratedFile × List Event :=
  match SourceSet.empty.addText configuration.modulePath file text with
  | .error diagnostics => (.error (.diagnostics diagnostics), [])
  | .ok sources => compile configuration sources

end MarkedRoutes
