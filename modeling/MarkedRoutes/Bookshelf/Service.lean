import MarkedRoutes.Bookshelf.Store
import MarkedRoutes.Bookshelf.Types
import MarkedRoutes.Serving.Router

/-!
# The bookshelf service

A catalog of books, and one route for each way in which a parameter can be
bound.  The state of the service is its store.  Arguments are bound in a fixed
order: provided values, values from texts, the request, and the body at last.
-/

namespace MarkedRoutes.Bookshelf

open MarkedRoutes.Http
open MarkedRoutes.Serving

/-- What the service registers: a converter of dates and a provider of the answer, beside
the converters of the primitive types. -/
def registries : Registries ShelfType :=
  (Registries.standard.withConverter (.host .date) Date.converter).withProvider
    (.host .answer) Answer.standard.provider

/-- The answer of a handler that returns a text. -/
def respondText (text : String) : Except DispatchFault Response := respond (.ok (.string text))

/-- The text that a route answers with a value. -/
def nice (text : String) : Except DispatchFault Response := respondText ("nice " ++ text)

/-- The fault of a handler that returns an error with a status. -/
def failure (error : StatusError) : DispatchFault := .handler (.ofLayer (.status error))

def parameter (request : Request) (source : TextSource) (name : String)
    (type : TypeCode ShelfType) : Except DispatchFault type.Carrier :=
  convert registries type (sourceText? request source name) name source

def optionalParameter (request : Request) (source : TextSource) (name : String)
    (type : TypeCode ShelfType) : Except DispatchFault (Option type.Carrier) :=
  convertOptional registries type (sourceText? request source name)

/-- What routes do: they may change the store, and a panic ends them without an answer. -/
abbrev Shelving := OptionT (StateM Store)

/-- The end of a route that panics. -/
def panicking {α : Type} : ExceptT DispatchFault Shelving α := ExceptT.mk OptionT.fail

/-- A route that does not use the store. -/
def stateless (answer : Request → Except DispatchFault Response) : Endpoint Shelving :=
  fun request => ExceptT.mk (pure (answer request))

def shown (text : Option String) : String := text.getD "null"

/-- The sum of two numbers of 32 bits, if it is one. -/
def checkedSum? (first second : Integer .i32) : Option (Integer .i32) :=
  Integer.ofInt? .i32 (first.value + second.value)

/-! The routes that show how parameters are bound. -/

/-- Answers without parameters. -/
def withoutParameters : Endpoint Shelving := stateless fun _ => respondText "nice"

def failing : Endpoint Shelving := stateless fun _ =>
  .error (failure (.notFound "no such thing"))

/-- Fails with an error of another kind. -/
def failingDeeply : Endpoint Shelving := stateless fun _ =>
  .error (failure (.notFound "nothing here"))

def numberInPath : Endpoint Shelving := stateless fun request => do
  let id ← parameter request .path "id" (.integer .i32)
  nice (Integer.text id)

/-- Reads a date from the path by its registered converter. -/
def dateInPath : Endpoint Shelving := stateless fun request => do
  let date ← parameter request .path "date" (.host .date)
  nice (toString (Date.dayOfYear date))

/-- Reads a tag from the path, for which no converter is registered. -/
def tagInPath : Endpoint Shelving := stateless fun request => do
  let tag ← parameter request .path "tag" (.host .tag)
  nice (Tag.label tag)

/-- Reads a tag from the path by a named converter. -/
def namedTagInPath : Endpoint Shelving := stateless fun request => do
  let tag ← convertWith Tag.converter (request.pathParameter? "tag") "tag" .path
  nice tag.label

def numberInQuery : Endpoint Shelving := stateless fun request => do
  let id ← parameter request .query "id" (.integer .i32)
  nice (Integer.text id)

/-- Reads an optional number from the query. -/
def optionalInQuery : Endpoint Shelving := stateless fun request => do
  let id ← optionalParameter request .query "id" (.integer .i32)
  nice (shown (id.map Integer.text))

/-- Reads a text from the query under a name of its own. -/
def textInQuery : Endpoint Shelving := stateless fun request => do
  nice (← parameter request .query "str" .text)

def numberInHeader : Endpoint Shelving := stateless fun request => do
  let id ← parameter request .header "id" (.integer .i32)
  nice (Integer.text id)

/-- Reads an optional text from a header. -/
def optionalInHeader : Endpoint Shelving := stateless fun request => do
  nice (shown (← optionalParameter request .header "label" .text))

/-- Reads a text from a header under a name of its own. -/
def textInHeader : Endpoint Shelving := stateless fun request => do
  nice (← parameter request .header "str" .text)

/-- Answers with the request's method and path. -/
def requestItself : Endpoint Shelving := stateless fun request => nice (requestLine request)

/-- Tells the answer plus a number.  A sum that is too large panics. -/
def answerThenIncrement (answer : Answer) (increment : Integer .i32) :
    ExceptT DispatchFault Shelving Response :=
  match checkedSum? answer.number increment with
  | some sum => nice (Integer.text sum)
  | none => panicking

/-- Tells the answer plus a number, which comes first. -/
def incrementThenAnswer (increment : Integer .i32) (answer : Answer) :
    ExceptT DispatchFault Shelving Response :=
  match checkedSum? answer.number increment with
  | some sum => nice (Integer.text sum)
  | none => panicking

/-- Adds a number from the path to the provided answer, the handler's first argument. -/
def answerFirst : Endpoint Shelving := fun request => do
  let answer ← provide registries (.host .answer) request
  let increment ← parameter request .path "inc" (.integer .i32)
  answerThenIncrement answer increment

/-- Adds a number from the path to the provided answer, the handler's last argument. -/
def answerLast : Endpoint Shelving := fun request => do
  let answer ← provide registries (.host .answer) request
  let increment ← parameter request .path "inc" (.integer .i32)
  incrementThenAnswer increment answer

/-- Asks for a value that nothing provides. -/
def nothingProvided : Endpoint Shelving := stateless fun request => do
  let _ ← provide registries (.host .unprovided) request
  respondText "unreachable without a provider"

/-! The catalog. -/

def listBooks : Endpoint Shelving := fun request => do
  let author ← optionalParameter request .query "author" .text
  let limit ← optionalParameter request .query "limit" (.integer .usize)
  let books := (← get).list author (limit.map fun limit => (Integer.value limit).toNat)
  respond (.ok (.array (books.map Book.json)))

def addBook : Endpoint Shelving := fun request => do
  let book ← receive NewBook.body request
  let (added, store) := (← get).add book
  set store
  respondReply ⟨.created, some (.ok added.json)⟩

/-- The error of a number that no book has. -/
def noBook (id : Nat) : DispatchFault :=
  failure (.notFound ("book " ++ toString id ++ " not found"))

/-- The number of a book in a request's path. -/
def bookNumber (request : Request) : Except DispatchFault Nat :=
  (parameter request .path "id" (.integer .u64)).map fun id => (Integer.value id).toNat

def getBook : Endpoint Shelving := fun request => do
  let id ← bookNumber request
  match (← get).get? id with
  | some book => respond (.ok book.json)
  | none => throw (noBook id)

def removeBook : Endpoint Shelving := fun request => do
  let id ← bookNumber request
  let (isRemoved, store) := (← get).remove id
  set store
  if isRemoved then pure respondEmpty else throw (noBook id)

/-- Lists the books on a shelf, from a date on when one is given. -/
def shelfBooks : Endpoint Shelving := fun request => do
  let shelf ← parameter request .path "shelf" .text
  let since := convertOptionalWith Date.compactConverter (request.pathParameter? "since")
  respond (.ok (.array (((← get).onShelf shelf since).map Book.json)))

/-! The router. -/

def reading : RequestMethod := ⟨"GET", by decide⟩

def adding : RequestMethod := ⟨"POST", by decide⟩

def removing : RequestMethod := ⟨"DELETE", by decide⟩

/-- The routes in the order in which they are registered. -/
def routes : List (RequestMethod × String × Endpoint Shelving) :=
  [(reading, "/test/without-params", withoutParameters),
    (reading, "/test/failing", failing),
    (reading, "/test/failing-anyhow", failingDeeply),
    (reading, "/test/int-path/\x7bid\x7d", numberInPath),
    (reading, "/test/registered-converter/\x7bdate\x7d", dateInPath),
    (reading, "/test/unregistered-converter/\x7btag\x7d", tagInPath),
    (reading, "/test/annotated-converter/\x7btag\x7d", namedTagInPath),
    (reading, "/test/int-query", numberInQuery),
    (reading, "/test/optional-query", optionalInQuery),
    (reading, "/test/named-query", textInQuery),
    (reading, "/test/int-header", numberInHeader),
    (reading, "/test/optional-header", optionalInHeader),
    (reading, "/test/named-header", textInHeader),
    (reading, "/test/pipeline", requestItself),
    (reading, "/test/provider-first/\x7binc\x7d", answerFirst),
    (reading, "/test/provider-last/\x7binc\x7d", answerLast),
    (reading, "/test/missing-provider", nothingProvided),
    (reading, "/catalog/books", listBooks),
    (adding, "/catalog/books", addBook),
    (reading, "/catalog/books/\x7bid\x7d", getBook),
    (removing, "/catalog/books/\x7bid\x7d", removeBook),
    (reading, "/catalog/shelves/\x7bshelf\x7d/books/\x7bsince?\x7d", shelfBooks)]

def router [PatternEngine] : Router Shelving :=
  routes.foldl (fun router (method, template, endpoint) =>
    (router.register method template endpoint).1) .empty

end MarkedRoutes.Bookshelf
