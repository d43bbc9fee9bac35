import MarkedRoutes.Event
import MarkedRoutes.Loading

/-!
# Discovering groups and handlers

Group-marked modules at the top level of a source, and group-marked modules
inside a discovered group, become groups; marked functions directly inside a
group become its handlers.  Base paths are concatenated as they are written.
What breaks a rule is reported, and markers that no group can see are logged.
-/

namespace MarkedRoutes

open MarkedRoutes.Source

/-- A discovered handler.  The method is as written. -/
structure DiscoveredHandler where
  name : String
  path : String
  method : String
  route : String
  signature : HandlerSignature
  location : Location

/-- A discovered group with its handlers and nested groups. -/
structure DiscoveredGroup where
  name : String
  modulePath : String
  base : String
  handlers : List DiscoveredHandler
  groups : List DiscoveredGroup
  location : Location

/-- What discovery carries along: the module paths of the groups so far, and what was
reported and logged, oldest first. -/
structure Survey where
  seen : List String
  diagnostics : List Diagnostic
  events : List Event

namespace Survey

/-- Before anything is discovered. -/
def empty : Survey := ⟨[], [], []⟩

def report (survey : Survey) (diagnostic : Diagnostic) : Survey :=
  { survey with diagnostics := survey.diagnostics ++ [diagnostic] }

def invalid (survey : Survey) (declaration : Declaration) (reason : InvalidReason) : Survey :=
  survey.report (.invalidDeclaration declaration.location declaration.name reason)

/-- Reports a declaration without a visibility. -/
def requireVisible (survey : Survey) (declaration : Declaration) (what : Unreachable) : Survey :=
  if declaration.visibility = .inherited then
    survey.report (.inaccessibleDeclaration declaration.location declaration.name what)
  else survey

def log (survey : Survey) (events : List Event) : Survey :=
  { survey with events := survey.events ++ events }

end Survey

/-- The event for a method marker that no group can see. -/
def strayMethodEvent (declaration : Declaration) (modulePath : String) : Event :=
  ⟨.warning, "Method marker outside a route group is ignored",
    [("handler", declaration.name), ("module_path", modulePath),
      ("location", declaration.location.text)]⟩

/-- The event for a group inside an unmarked module. -/
def strayGroupEvent (declaration : Declaration) (modulePath : String) : Event :=
  ⟨.warning,
    "Route group nested in an unmarked module is not discovered; move it to the top level",
    [("group", declaration.name), ("module_path", modulePath),
      ("location", declaration.location.text)]⟩

mutual

/-- The events for markers on and inside a declaration that belongs to no group. -/
def strayEvents (modulePath : String) : Declaration → List Event
  | ⟨name, kind, visibility, markers, children, signature, hasBody, location⟩ =>
    let declaration : Declaration :=
      ⟨name, kind, visibility, markers, children, signature, hasBody, location⟩
    (if declaration.methods.isEmpty then [] else [strayMethodEvent declaration modulePath]) ++
      (if kind = .module then strayChildEvents (childPath modulePath name) children else [])

def strayChildEvents (modulePath : String) : List Declaration → List Event
  | [] => []
  | first :: rest =>
    (if first.isGroup then [strayGroupEvent first modulePath] else strayEvents modulePath first) ++
      strayChildEvents modulePath rest

end

/-- Whether a text holds a control character. -/
def hasControl (text : String) : Bool := text.toList.any Text.isControl

/-- The handler that a declaration with method markers is, with what is reported. -/
def discoverHandler (survey : Survey) (modulePath base : String) (declaration : Declaration) :
    Option DiscoveredHandler × Survey :=
  match declaration.kind, declaration.signature with
  | .function, some signature =>
    match declaration.methods with
    | [(method, path)] =>
      let survey := survey.requireVisible declaration .handler
      if hasControl path then (none, survey.invalid declaration (.controlInPath path))
      else
        (some
          { name := declaration.name
            path := childPath modulePath declaration.name
            method
            route := base ++ path
            signature
            location := declaration.location }, survey)
    | _ => (none, survey.invalid declaration .severalMethods)
  | kind, _ => (none, survey.invalid declaration (.methodOnNoFunction kind))

/-- What discovery finds inside a group. -/
structure Members where
  handlers : List DiscoveredHandler
  groups : List DiscoveredGroup

mutual

/-- The group that a group-marked declaration is, with what is reported. -/
def discoverGroup (survey : Survey) (parentModule parentBase : String) :
    Declaration → Option DiscoveredGroup × Survey
  | ⟨name, kind, visibility, markers, children, signature, hasBody, location⟩ =>
    let declaration : Declaration :=
      ⟨name, kind, visibility, markers, children, signature, hasBody, location⟩
    if kind ≠ .module then (none, survey.invalid declaration (.groupIsNoModule kind))
    else if !hasBody then (none, survey.invalid declaration .groupHasNoBody)
    else
      let modulePath := childPath parentModule name
      if survey.seen.contains modulePath then
        (none, survey.invalid declaration (.groupRepeated modulePath))
      else
        let survey := { survey with seen := modulePath :: survey.seen }
        let survey := survey.requireVisible declaration .group
        let ownBase := declaration.groupBase?.getD ""
        if hasControl ownBase then (none, survey.invalid declaration (.controlInBase ownBase))
        else
          let base := parentBase ++ ownBase
          let (members, survey) := discoverMembers survey modulePath base children
          (some ⟨name, modulePath, base, members.handlers, members.groups, location⟩, survey)

/-- The handlers and nested groups among the children of a group. -/
def discoverMembers (survey : Survey) (modulePath base : String) :
    List Declaration → Members × Survey
  | [] => (⟨[], []⟩, survey)
  | child :: rest =>
    if child.isGroup then
      let (group, survey) := discoverGroup survey modulePath base child
      let (members, survey) := discoverMembers survey modulePath base rest
      ({ members with groups := group.toList ++ members.groups }, survey)
    else if child.methods.isEmpty then
      discoverMembers (survey.log (strayEvents modulePath child)) modulePath base rest
    else
      let (handler, survey) := discoverHandler survey modulePath base child
      let (members, survey) := discoverMembers survey modulePath base rest
      ({ members with handlers := handler.toList ++ members.handlers }, survey)

end

/-- The groups among the top-level declarations of one source. -/
def discoverItems (survey : Survey) (modulePath : String) :
    List Declaration → List DiscoveredGroup × Survey
  | [] => ([], survey)
  | item :: rest =>
    if item.isGroup then
      let (group, survey) := discoverGroup survey modulePath "" item
      let (groups, survey) := discoverItems survey modulePath rest
      (group.toList ++ groups, survey)
    else discoverItems (survey.log (strayEvents modulePath item)) modulePath rest

/-- The groups of several sources, in order. -/
def discoverUnits (survey : Survey) : List SourceUnit → List DiscoveredGroup × Survey
  | [] => ([], survey)
  | unit :: rest =>
    let (groups, survey) := discoverItems survey unit.modulePath unit.items
    let (more, survey) := discoverUnits survey rest
    (groups ++ more, survey)

/-- Every group of a set of sources, with everything reported and logged. -/
def discover (sources : SourceSet) : List DiscoveredGroup × Survey :=
  discoverUnits .empty sources.units

end MarkedRoutes
