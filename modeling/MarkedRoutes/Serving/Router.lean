import MarkedRoutes.Event
import MarkedRoutes.Serving.Argument
import MarkedRoutes.Serving.Matching

/-!
# Routers

A router answers each request by the first registered route whose method equals
the request's and whose template matches its path.  Every answer carries the id
of its request.  Routes answer in a monad of their own, in which they may keep a
state from one request to the next or end without an answer.
-/

namespace MarkedRoutes.Serving

open MarkedRoutes.Http

/-- Answers the requests of one route in a monad `m`, which carries what the handlers share. -/
abbrev Endpoint (m : Type → Type) := Request → ExceptT DispatchFault m Response

/-- An endpoint that binds the arguments of a handler and calls it with them. -/
def Endpoint.ofHandler {κ : Type} {m : Type → Type} [HostTypes κ] [DecidableEq κ] [Monad m]
    (registries : Registries κ) (sources : List (String × ArgumentSource κ))
    (handler : List (String × Argument κ) → Except DispatchFault Response) : Endpoint m :=
  fun request => ExceptT.mk (pure ((bindArguments registries request sources).bind handler))

/-- A registered route. -/
structure RouteEntry (m : Type → Type) where
  method : RequestMethod
  template : String
  matcher : PathMatcher
  endpoint : Endpoint m

def RouteEntry.isFor {m : Type → Type} (entry : RouteEntry m) (method : RequestMethod)
    (template : String) : Bool :=
  entry.method = method && entry.template = template

/-- A route that matches a request, with the values taken from the path. -/
structure RouteMatch (m : Type → Type) where
  template : String
  pathParameters : List (String × String)
  endpoint : Endpoint m

namespace RouteMatch

variable {m : Type → Type}

/-- The value taken for a placeholder. -/
def pathParameter? (found : RouteMatch m) (name : String) : Option String :=
  lastValue? found.pathParameters name

def pairText (pair : String × String) : String :=
  "(" ++ Text.quoted pair.1 ++ ", " ++ Text.quoted pair.2 ++ ")"

/-- The template and the values as a text. -/
def text (found : RouteMatch m) : String :=
  "RouteMatch \x7b template: " ++ Text.quoted found.template ++ ", path_params: [" ++
    Text.joinTexts ", " (found.pathParameters.map pairText) ++ "], .. \x7d"

end RouteMatch

/-- Registered routes in order. -/
structure Router (m : Type → Type) where
  entries : List (RouteEntry m)

namespace Router

variable {m : Type → Type}

/-- A router without routes. -/
def empty : Router m := ⟨[]⟩

def size (router : Router m) : Nat := router.entries.length

def table (router : Router m) : List (String × String) :=
  router.entries.map fun entry => (entry.method.name, entry.template)

def event (level : Level) (message : String) (method : RequestMethod) (path : String) : Event :=
  ⟨level, message, [("method", method.name), ("path", path)]⟩

/-- The router with one more route, and an event when an earlier route has its method and
template.  A template whose pattern cannot be compiled is left out and reported. -/
def register [PatternEngine] (router : Router m) (method : RequestMethod) (template : String)
    (endpoint : Endpoint m) : Router m × List Event :=
  match PathMatcher.ofTemplate? template with
  | none => (router, [event .error "Route template rejected" method template])
  | some matcher =>
    let isRepeated := router.entries.any fun earlier => earlier.isFor method template
    (⟨router.entries ++ [⟨method, template, matcher, endpoint⟩]⟩,
      if isRepeated then
        [event .warning "Duplicate route; the first registration wins" method template]
      else [])

def asMatch? (method : RequestMethod) (path : String) (entry : RouteEntry m) :
    Option (RouteMatch m) :=
  if entry.method = method then
    (entry.matcher.match? path).map fun pathParameters =>
      ⟨entry.template, pathParameters, entry.endpoint⟩
  else none

def find? (router : Router m) (method : RequestMethod) (path : String) :
    Option (RouteMatch m) :=
  router.entries.findSome? (asMatch? method path)

/-- The first route that matches, and an event when there is none. -/
def route (router : Router m) (method : RequestMethod) (path : String) :
    Option (RouteMatch m) × List Event :=
  match router.find? method path with
  | some found => (some found, [])
  | none => (none, [event .warning "No route matched" method path])

/-- The event about a request that a route failed to answer, unless the client is at
fault. -/
def faultEvents (id : RequestId) (template : String) (fault : DispatchFault) : List Event :=
  let report (message : String) : List Event :=
    [⟨.error, message,
      [("request_id", id.text), ("route_pattern", template),
        ("status", toString fault.status.code), ("error", fault.message)]⟩]
  if fault.isConfigurationGap then report "Routing configuration gap"
  else if fault.status.isServerError then report "Dispatch failed"
  else []

/-- The answer to a request that no route matches. -/
def notFound : Response := .error .notFound "Not Found"

/-- The response to what an endpoint made of a request. -/
def settle (id : RequestId) (template : String) :
    Except DispatchFault Response → Response × List Event
  | .ok response => (response, [])
  | .error fault => (.ofFault fault, faultEvents id template fault)

/-- A response that carries the id of its request. -/
def stamp (id : RequestId) (response : Response) : Response :=
  response.withHeader RequestId.headerName id.text

def dispatch [Monad m] (router : Router m) (request : Request) :
    m (Response × List Event) := do
  let (found, events) := router.route request.method request.path
  match found with
  | none => return (stamp request.id notFound, events)
  | some found =>
    let outcome ← (found.endpoint (request.withPathParameters found.pathParameters)).run
    let (response, more) := settle request.id found.template outcome
    return (stamp request.id response, events ++ more)

/-- Answers a message.  `minted` is the id of a message that supplies none. -/
def handle [Monad m] (router : Router m) (minted : RequestId) (message : Message) :
    m (Response × List Event) :=
  router.dispatch (.ofMessage minted message)

def rowText (row : String × String) : String :=
  "(" ++ row.1 ++ ", " ++ Text.quoted row.2 ++ ")"

def text (router : Router m) : String :=
  "Router \x7b routes: [" ++ Text.joinTexts ", " (router.table.map rowText) ++ "] \x7d"

/-- The table as lines. -/
def listing (router : Router m) : String :=
  "[routes] count=" ++ toString router.size ++ "\n" ++
    String.join (router.table.map fun row => "[route] " ++ row.1 ++ " " ++ row.2 ++ "\n")

end Router

end MarkedRoutes.Serving
