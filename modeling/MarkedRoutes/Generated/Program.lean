import MarkedRoutes.Generated.Dispatch
import MarkedRoutes.Generated.Name

/-!
# Generated programs

The generated program registers every route with a router.  Its entry point
calls the registration function of each outermost group; a registration function
registers the group's own routes in declaration order and then calls those of
its nested groups.  Names are chained: `register_a_b` belongs to group `b`
inside `a`, and `dispatch_a_b_h` serves its handler `h`.
-/

namespace MarkedRoutes

/-- One statement of a registration function. -/
inductive RegistrationCall where
  | route (method : Method) (path : String) (dispatch : String)
  | group (registration : String)
  deriving DecidableEq, Repr

/-- The function that registers the routes of a group. -/
structure RegistrationFunction where
  name : String
  modulePath : String
  base : String
  calls : List RegistrationCall
  deriving DecidableEq, Repr

/-- A function of a generated program beside its entry point. -/
inductive GeneratedItem where
  | dispatch (function : DispatchFunction)
  | registration (function : RegistrationFunction)
  deriving DecidableEq, Repr

def GeneratedItem.name : GeneratedItem → String
  | dispatch function => function.name
  | registration function => function.name

/-- A route as the header of a generated file lists it. -/
structure RouteListing where
  method : String
  path : String
  handler : String
  deriving DecidableEq, Repr

/-- A generated program: its entry point, the registration functions that the entry point
calls, and the other functions in order. -/
structure GeneratedProgram where
  entry : String
  calls : List String
  items : List GeneratedItem
  listings : List RouteListing
  deriving DecidableEq, Repr

def Route.listing (route : Route) : RouteListing :=
  ⟨route.method.name, route.template.text, route.handlerPath⟩

/-- Names the dispatch functions of a group's routes. -/
def nameDispatches (names : NameTable) (chain : String) :
    List Route → List (Route × String) × NameTable
  | [] => ([], names)
  | first :: rest =>
    let (name, names) := names.allocate ("dispatch_" ++ chain ++ "_" ++ first.handlerName)
    let (others, names) := nameDispatches names chain rest
    ((first, name) :: others, names)

/-- The statement that registers a route with its dispatch function. -/
def registrationCall (named : Route × String) : RegistrationCall :=
  .route named.1.method named.1.template.text named.2

def dispatchItem (named : Route × String) : GeneratedItem :=
  .dispatch (named.1.dispatchFunction named.2)

/-- What is emitted for groups: functions, and the listings of the routes that they serve. -/
structure Emission where
  items : List GeneratedItem
  listings : List RouteListing
  deriving DecidableEq, Repr

namespace Emission

def empty : Emission := ⟨[], []⟩

def append (first second : Emission) : Emission :=
  ⟨first.items ++ second.items, first.listings ++ second.listings⟩

/-- What is emitted for the routes of a group. -/
def ofRoutes (named : List (Route × String)) : Emission :=
  ⟨named.map dispatchItem, named.map fun entry => entry.1.listing⟩

/-- What is emitted for the registration function of a group. -/
def ofRegistration (function : RegistrationFunction) : Emission := ⟨[.registration function], []⟩

end Emission

mutual

/-- What is emitted for a group and everything under it, with the name of its registration
function.  `chain` joins the names of the groups from the outermost down. -/
def emitGroup (names : NameTable) (chain : String) :
    RouteGroup → (String × Emission) × NameTable
  | ⟨_, modulePath, base, routes, groups⟩ =>
    let (registration, names) := names.allocate ("register_" ++ chain)
    let (named, names) := nameDispatches names chain routes
    let ((nested, inner), names) := emitGroups names (chain ++ "_") groups
    let calls := named.map registrationCall ++ nested.map RegistrationCall.group
    ((registration, ((Emission.ofRoutes named).append inner).append
      (.ofRegistration ⟨registration, modulePath, base, calls⟩)), names)

/-- What is emitted for a list of groups, with the names of their registration functions.
Every chain begins with `start`. -/
def emitGroups (names : NameTable) (start : String) :
    List RouteGroup → (List String × Emission) × NameTable
  | [] => (([], .empty), names)
  | first :: rest =>
    let ((registration, emission), names) := emitGroup names (start ++ first.name) first
    let ((registrations, others), names) := emitGroups names start rest
    ((registration :: registrations, emission.append others), names)

end

/-- The program that registers the routes of the groups, with the events of the names that
had to be numbered. -/
def GeneratedProgram.ofGroups (entry : String) (groups : List RouteGroup) :
    GeneratedProgram × List Event :=
  let ((calls, emission), names) := emitGroups (.ofName entry) "" groups
  (⟨entry, calls, emission.items, emission.listings⟩, names.events)

end MarkedRoutes
