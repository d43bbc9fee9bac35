import MarkedRoutes.Serving.Fault
import MarkedRoutes.Text.Case

/-!
# Responses

A response has a status, headers in order and a JSON value as its body.  Null
means no body, a string is sent as plain text, and any other value as JSON; the
content type says which.
-/

namespace MarkedRoutes.Serving

open MarkedRoutes.Http

/-- A response. -/
structure Response where
  status : Status
  headers : List (String × String)
  body : Json
  deriving Repr

namespace Response

/-- The name of the header that tells the content type. -/
def contentType : String := "content-type"

def empty (status : Status) : Response := ⟨status, [], .null⟩

def json (status : Status) (body : Json) : Response :=
  ⟨status, [(contentType, "application/json")], body⟩

def text (status : Status) (body : String) : Response :=
  ⟨status, [(contentType, "text/plain; charset=utf-8")], .string body⟩

/-- A body whose content type fits its value. -/
def ofValue (status : Status) (body : Json) : Response :=
  match body with
  | .null => empty status
  | .string body => text status body
  | body => json status body

def error (status : Status) (message : String) : Response :=
  json status (.object [("error", .string message)])

/-- The answer to a request that fails. -/
def ofFault (fault : DispatchFault) : Response := error fault.status fault.publicMessage

/-- The first header of a name, ignoring case. -/
def header? (response : Response) (name : String) : Option String :=
  (response.headers.find? fun header => Text.sameFolded header.1 name).map Prod.snd

/-- The response with a header, in place of every earlier one of its name. -/
def withHeader (response : Response) (name value : String) : Response :=
  { response with
    headers :=
      response.headers.filter (fun header => !Text.sameFolded header.1 name) ++ [(name, value)] }

def bodyText (response : Response) : String :=
  match response.body with
  | .null => ""
  | .string body => body
  | body => body.text

/-- The status and the body as a value. -/
def toJson (response : Response) : Json :=
  .object [("status", .ofNat response.status.code), ("body", response.body)]

end Response

end MarkedRoutes.Serving
