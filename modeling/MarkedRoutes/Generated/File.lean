import MarkedRoutes.Configuration
import MarkedRoutes.Generated.Print

/-!
# Generated files

A generated file is a header of comment lines that lists the routes, an empty
line, and the generated program on one line.
-/

namespace MarkedRoutes

open MarkedRoutes.Source

/-- A generated file: its text, and the routes that its header lists. -/
structure GeneratedFile where
  text : String
  listings : List RouteListing
  deriving DecidableEq, Repr

/-- Why no file is generated. -/
inductive GenerationFault where
  | configuration (fault : ConfigurationFault)
  | name (fault : NameFault)
  | unparsable
  deriving DecidableEq, Repr

def RouteListing.line (listing : RouteListing) : String :=
  "//   " ++ listing.method ++ " " ++ listing.path ++ " -> " ++ listing.handler

def headerLines (entry : String) (listings : List RouteListing) : List String :=
  ["// @generated by routecraft-gen. Do not edit by hand.", "//",
    "// Entry point: `" ++ entry ++ "`", "// Routes:"] ++ listings.map RouteListing.line

/-- A header, an empty line and the items. -/
def renderFile (entry : String) (listings : List RouteListing) (items : String) : String :=
  Text.joinTexts "\n" (headerLines entry listings ++ ["", items])

def generate [SourceParser] (configuration : Configuration) (groups : List RouteGroup) :
    Except GenerationFault GeneratedFile × List Event :=
  match configuration.fault? with
  | some fault => (.error (.configuration fault), [])
  | none =>
    let (program, events) := GeneratedProgram.ofGroups configuration.entryFunction groups
    match program.tokens configuration.runtimePath with
    | .error fault => (.error (.name fault), events)
    | .ok tokens =>
      if SourceParser.areItems tokens then
        (.ok
          { text := renderFile program.entry program.listings (spacedText tokens)
            listings := program.listings }, events)
      else (.error .unparsable, events)

end MarkedRoutes
