import MarkedRoutes.Diagnostic

/-!
# Loading source files

A source file loads when its text reads as items and none of its markers is
malformed; otherwise every malformed marker is reported, in traversal order: an
item's own attributes first, then its parameters or its children.
-/

namespace MarkedRoutes

open MarkedRoutes.Source

def itemMarkerDiagnostics (location : Location) (name : String) (attributes : List Attribute) :
    List Diagnostic :=
  (malformedMarkers itemMarker? attributes).map fun (marker, fault) =>
    .invalidDeclaration location name (.malformedMarker marker fault)

/-- The diagnostics of malformed markers on the parameters of a function. -/
def parameterMarkerDiagnostics [SourceParser] (location : Location) (name : String)
    (parameters : List Parameter) : List Diagnostic :=
  parameters.flatMap fun parameter =>
    (malformedMarkers parameterMarker? parameter.attributes).map fun (marker, fault) =>
      .invalidDeclaration location name
        (.malformedParameterMarker (parameterLabel parameter) marker fault)

mutual

/-- The diagnostics of every malformed marker on an item and inside it. -/
def diagnosticsOfItem [SourceParser] (file : String) : Item → List Diagnostic
  | .module attributes _ name line content =>
    itemMarkerDiagnostics ⟨file, line⟩ name attributes ++
      (match content with
        | some items => diagnosticsOfItems file items
        | none => [])
  | .function attributes _ signature =>
    itemMarkerDiagnostics ⟨file, signature.line⟩ signature.name attributes ++
      parameterMarkerDiagnostics ⟨file, signature.line⟩ signature.name signature.parameters
  | .implementation attributes line _ subject =>
    itemMarkerDiagnostics ⟨file, line⟩ subject.canonical attributes
  | .named _ attributes _ name line => itemMarkerDiagnostics ⟨file, line⟩ name attributes
  | .other _ => []

/-- The diagnostics of every malformed marker in a list of items. -/
def diagnosticsOfItems [SourceParser] (file : String) : List Item → List Diagnostic
  | [] => []
  | first :: rest => diagnosticsOfItem file first ++ diagnosticsOfItems file rest

end

/-- Loads the items of a file mounted at a module path. -/
def loadItems [SourceParser] (modulePath file : String) (items : List Item) :
    Except (List Diagnostic) LoadedSource :=
  match diagnosticsOfItems file items with
  | [] =>
    .ok ⟨⟨modulePath, file, declarationsOfItems file items⟩,
      convertersOfItems file modulePath items⟩
  | diagnostics => .error diagnostics

/-- Loads a source text mounted at a module path. -/
def loadSource [SourceParser] (modulePath file text : String) :
    Except (List Diagnostic) LoadedSource :=
  match SourceParser.file text with
  | .ok items => loadItems modulePath file items
  | .error fault => .error [.unreadable ⟨file, fault.line⟩ fault.message]

/-- The sources of one compilation, in the order in which they were added. -/
structure SourceSet where
  units : List SourceUnit
  converters : List ConverterDeclaration

namespace SourceSet

def empty : SourceSet := ⟨[], []⟩

/-- The sources with one more at the end. -/
def add (sources : SourceSet) (loaded : LoadedSource) : SourceSet :=
  ⟨sources.units ++ [loaded.unit], sources.converters ++ loaded.converters⟩

def addText [SourceParser] (sources : SourceSet) (modulePath file text : String) :
    Except (List Diagnostic) SourceSet :=
  (loadSource modulePath file text).map sources.add

end SourceSet

end MarkedRoutes
