import MarkedRoutes.Http.Query
import MarkedRoutes.Http.RequestId
import MarkedRoutes.Http.Target

/-!
# Requests

A request as the routes see it: its id, its method, its path with the values
that the matched template took from it, its query, its headers and its body.  Of
several values with one name the last counts in a path or query, and the first
among headers.
-/

namespace MarkedRoutes.Http

/-- A request. -/
structure Request where
  id : RequestId
  method : RequestMethod
  path : String
  pathParameters : List (String × String)
  queryParameters : List (String × String)
  headers : List Header
  body : List UInt8
  deriving DecidableEq

def lastValue? (pairs : List (String × String)) (name : String) : Option String :=
  (pairs.reverse.find? fun pair => pair.1 = name).map Prod.snd

namespace Request

/-- A request without headers and body for a path with an optional query. -/
def ofTarget (id : RequestId) (method : RequestMethod) (target : String) : Request :=
  let (path, rest) := target.toList.span (· != '?')
  { id, method
    path := String.ofList path
    pathParameters := []
    queryParameters := queryPairs (rest.drop 1)
    headers := []
    body := [] }

/-- The request with one more header, or unchanged when the header is not valid. -/
def withHeader (request : Request) (name value : String) : Request :=
  match Header.ofParts? name (Text.bytesOf value) with
  | some header => { request with headers := request.headers ++ [header] }
  | none => request

def withBody (request : Request) (body : List UInt8) : Request := { request with body }

/-- The request with the values that a template took from its path. -/
def withPathParameters (request : Request) (pathParameters : List (String × String)) : Request :=
  { request with pathParameters }

/-- The value that the template took for a placeholder. -/
def pathParameter? (request : Request) (name : String) : Option String :=
  lastValue? request.pathParameters name

def queryParameter? (request : Request) (name : String) : Option String :=
  lastValue? request.queryParameters name

def header? (request : Request) (name : String) : Option String :=
  headerText? request.headers name

end Request

/-- A request message: method, path with query, headers and body. -/
structure Message where
  method : RequestMethod
  target : String
  headers : List Header
  body : List UInt8
  deriving DecidableEq

/-- The message of the given parts, when every part is valid. -/
def Message.ofParts? (method target : String) (headers : List (String × List UInt8))
    (body : List UInt8) : Option Message := do
  let method ← RequestMethod.ofName? method
  let target ← requestTarget? target
  let headers ← headers.mapM fun header => Header.ofParts? header.1 header.2
  some { method, target, headers, body }

/-- The id of a message: the one its headers supply, or else a new one. -/
def Message.requestId (message : Message) (minted : RequestId) : RequestId :=
  (RequestId.ofHeaders? message.headers).getD minted

/-- The request of a message.  `minted` is the id of a message that supplies none. -/
def Request.ofMessage (minted : RequestId) (message : Message) : Request :=
  { Request.ofTarget (message.requestId minted) message.method message.target with
    headers := message.headers
    body := message.body }

end MarkedRoutes.Http
