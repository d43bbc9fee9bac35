import MarkedRoutes.Command.Arguments
import MarkedRoutes.Command.FileTree
import MarkedRoutes.Compiler
import MarkedRoutes.Listing

/-!
# Running commands

A command reads its configuration and its source, and prints what it finds or
writes the generated file.  A file is written only when its text changes, and
formatted only when it was written.
-/

namespace MarkedRoutes

open MarkedRoutes.Source (SourceParser)

/-- What comes of calling a formatting program: there is none of its name, or it runs, fails or
not, and leaves files behind that it may have changed. -/
inductive Formatting where
  | missing
  | failed (files : FileTree)
  | formatted (files : FileTree)

/-- What commands find around them: files, the environment, and the formatting programs by
name, which are given the path of a file among files. -/
structure Workplace where
  files : FileTree
  environment : String → Option String
  formatter : String → String → FileTree → Formatting

/-- Why a command fails. -/
inductive CommandFault where
  | unreadableConfiguration (path : String) (fault : FileFault)
  | invalidDocument (path : String)
  | invalidConfiguration (fault : ConfigurationFault)
  | unreadableSource (path : String) (fault : FileFault)
  | compilation (fault : CompileFault)
  | unwritable (path : String) (fault : FileFault)
  | formatterMissing (program : String)
  | formatterFailed (program path : String)
  deriving DecidableEq, Repr

def NameFault.message : NameFault → String
  | unwritableSegment text => "path segment `" ++ text ++ "` is not a Rust identifier"
  | unwritableEntry text => "register_fn `" ++ text ++ "` is not a Rust identifier"

def GenerationFault.message : GenerationFault → String
  | configuration fault => fault.message
  | name fault => fault.message
  | unparsable => "emitted dispatch code does not parse"

def CommandFault.message : CommandFault → String
  | unreadableConfiguration path fault => "failed to read " ++ path ++ ": " ++ fault.message
  | invalidDocument path => "in " ++ path ++ ": invalid routecraft configuration"
  | invalidConfiguration fault => fault.message
  | unreadableSource path fault =>
    "failed to read routes source " ++ path ++ ": " ++ fault.message
  | compilation (.diagnostics diagnostics) => report diagnostics
  | compilation (.generation fault) => fault.message
  | unwritable path fault => "failed to write " ++ path ++ ": " ++ fault.message
  | formatterMissing program =>
    "failed to run " ++ program ++ ": " ++ FileFault.notFound.message
  | formatterFailed program path => program ++ " failed on " ++ path

/-- The configuration file that is read when none is named. -/
def defaultConfigurationPath : String := "routecraft.toml"

def readConfiguration (files : FileTree) (path : String) : Except CommandFault Configuration :=
  match files.read path with
  | .error fault => .error (.unreadableConfiguration path fault)
  | .ok text =>
    match Configuration.ofDocument? text with
    | none => .error (.invalidDocument path)
    | some configuration => .ok configuration

/-- Passes a configuration on unless something is wrong with it. -/
def checkConfiguration [SourceParser] (configuration : Configuration) :
    Except CommandFault Configuration :=
  match configuration.fault? with
  | some fault => .error (.invalidConfiguration fault)
  | none => .ok configuration

/-- The configuration of a workplace: the named file, or the default file when it is there,
or the defaults, and the environment over it. -/
def loadConfiguration [SourceParser] (place : Workplace) (path : Option String) :
    Except CommandFault Configuration := do
  let base ←
    match path with
    | some path => readConfiguration place.files path
    | none =>
      if place.files.isFile defaultConfigurationPath then
        readConfiguration place.files defaultConfigurationPath
      else .ok .standard
  checkConfiguration (base.withEnvironment place.environment)

def Configuration.withFlags (configuration : Configuration) (invocation : Invocation) :
    Configuration where
  modulePath := invocation.modulePath.getD configuration.modulePath
  runtimePath := invocation.runtimePath.getD configuration.runtimePath
  entryFunction := invocation.entryFunction.getD configuration.entryFunction
  formats := configuration.formats || invocation.formats

def resolveConfiguration [SourceParser] (place : Workplace) (invocation : Invocation) :
    Except CommandFault Configuration := do
  let configuration ← loadConfiguration place invocation.configPath
  checkConfiguration (configuration.withFlags invocation)

/-- What a command does to a file: it writes a text there, or calls a formatting program on the
text that it has written. -/
inductive FileAction where
  | write (path content : String)
  | format (program path content : String)
  deriving DecidableEq, Repr

/-- What a command leaves behind: the printed text or a fault, the files, the logged events, and
what it did to files. -/
structure CommandOutcome where
  result : Except CommandFault String
  files : FileTree
  events : List Event
  actions : List FileAction

/-- An outcome that leaves the files alone. -/
def CommandOutcome.untouched (place : Workplace) (result : Except CommandFault String)
    (events : List Event) : CommandOutcome :=
  ⟨result, place.files, events, []⟩

/-- The sources of an invocation: its input mounted at the configured module path. -/
def readSources [SourceParser] (place : Workplace) (configuration : Configuration)
    (input : String) : Except CommandFault SourceSet :=
  match place.files.read input with
  | .error fault => .error (.unreadableSource input fault)
  | .ok text =>
    match SourceSet.empty.addText configuration.modulePath input text with
    | .error diagnostics => .error (.compilation (.diagnostics diagnostics))
    | .ok sources => .ok sources

def formatterName (place : Workplace) : String :=
  (place.environment "ROUTECRAFT_RUSTFMT_BIN").getD "rustfmt"

/-- Formats a file that was just written, and returns the files that are left. -/
def formatFile (place : Workplace) (files : FileTree) (path : String) :
    Except CommandFault Unit × FileTree :=
  let program := formatterName place
  match place.formatter program path files with
  | .missing => (.error (.formatterMissing program), files)
  | .failed left => (.error (.formatterFailed program path), left)
  | .formatted left => (.ok (), left)

def writtenLine (file : GeneratedFile) (path : String) : String :=
  "✅ " ++ toString file.listings.length ++ " route(s) written to " ++ path ++ "\n"

/-- Writes a generated file unless it is there already. -/
def writeGenerated (place : Workplace) (configuration : Configuration) (path : String)
    (file : GeneratedFile) (events : List Event) : CommandOutcome :=
  if (place.files.read path).toOption = some file.text then
    .untouched place (.ok (writtenLine file path)) events
  else
    match place.files.write path file.text with
    | .error fault => .untouched place (.error (.unwritable path fault)) events
    | .ok files =>
      let written : List FileAction := [.write path file.text]
      if configuration.formats then
        let formatted := written ++ [.format (formatterName place) path file.text]
        let (result, left) := formatFile place files path
        ⟨result.map fun _ => writtenLine file path, left, events, formatted⟩
      else ⟨.ok (writtenLine file path), files, events, written⟩

/-- Generates the file of some sources, and writes it or prints it. -/
def runGenerate [SourceParser] (place : Workplace) (configuration : Configuration)
    (output : Option String) (sources : SourceSet) : CommandOutcome :=
  match compile configuration sources with
  | (.error fault, events) => .untouched place (.error (.compilation fault)) events
  | (.ok file, events) =>
    match output with
    | some path => writeGenerated place configuration path file events
    | none => .untouched place (.ok file.text) events

/-- Analyses some sources and prints what is found. -/
def runAnalysis (place : Workplace) (sources : SourceSet)
    (print : List RouteGroup → String) : CommandOutcome :=
  let analysis := analyze sources
  match analysis.result with
  | .error diagnostics =>
    .untouched place (.error (.compilation (.diagnostics diagnostics))) analysis.events
  | .ok groups => .untouched place (.ok (print groups)) analysis.events

def checkedLine (groups : List RouteGroup) : String :=
  "✅ " ++ toString groups.length ++ " group(s), " ++ toString (routeCountOf groups) ++
    " route(s): no issues found\n"

def inspection (asJson : Bool) (groups : List RouteGroup) : String :=
  if asJson then (routeJson groups).prettyText ++ "\n" else routeTable groups

def runCommand [SourceParser] (place : Workplace) (invocation : Invocation) : CommandOutcome :=
  match resolveConfiguration place invocation with
  | .error fault => .untouched place (.error fault) []
  | .ok configuration =>
    match readSources place configuration invocation.input with
    | .error fault => .untouched place (.error fault) []
    | .ok sources =>
      match invocation.command with
      | .generate => runGenerate place configuration invocation.output sources
      | .check => runAnalysis place sources checkedLine
      | .inspect => runAnalysis place sources (inspection invocation.asJson)

end MarkedRoutes
