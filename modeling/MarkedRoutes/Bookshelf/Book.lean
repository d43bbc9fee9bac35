import MarkedRoutes.Bookshelf.Date
import MarkedRoutes.Serving.Body

/-!
# Books

A book on the shelf has a number, a title, an author, a shelf and the date on
which it was added.  A new book has all of these but the number.
-/

namespace MarkedRoutes.Bookshelf

open MarkedRoutes.Serving

/-- A book without a number. -/
structure NewBook where
  title : String
  author : String
  shelf : String
  added : Date
  deriving DecidableEq, Repr

/-- A book on the shelf. -/
structure Book where
  id : Nat
  title : String
  author : String
  shelf : String
  added : Date
  deriving DecidableEq, Repr

def NewBook.withId (book : NewBook) (id : Nat) : Book :=
  ⟨id, book.title, book.author, book.shelf, book.added⟩

def Book.json (book : Book) : Json :=
  .object [("id", .ofNat book.id), ("title", .string book.title),
    ("author", .string book.author), ("shelf", .string book.shelf), ("added", book.added.json)]

namespace NewBook

/-- The fields of a new book as they are read. -/
structure Fields where
  title : Option String
  author : Option String
  shelf : Option String
  added : Option Date

def required {α : Type} (name : String) : Option α → Except Json.Fault α
  | some value => .ok value
  | none => .error (.missingField name)

def textField (name : String) (get : Fields → Option String)
    (set : Fields → String → Fields) : Json.Field Fields :=
  ⟨name, fun fields => (get fields).isSome, fun fields level cursor =>
    (Json.stringDecoder level cursor).map fun (value, cursor) => (set fields value, cursor)⟩

/-- How a new book is decoded. -/
def shape : Json.RecordShape Fields NewBook where
  name := "struct NewBook"
  fields :=
    [textField "title" Fields.title fun fields value => { fields with title := some value },
      textField "author" Fields.author fun fields value => { fields with author := some value },
      textField "shelf" Fields.shelf fun fields value => { fields with shelf := some value },
      ⟨"added", fun fields => fields.added.isSome, fun fields level cursor =>
        (Date.decoder level cursor).map fun (value, cursor) =>
          ({ fields with added := some value }, cursor)⟩]
  start := ⟨none, none, none, none⟩
  finish fields := do
    let title ← required "title" fields.title
    let author ← required "author" fields.author
    let shelf ← required "shelf" fields.shelf
    let added ← required "added" fields.added
    .ok { title, author, shelf, added }

/-- A new book as the list of its fields. -/
def json (book : NewBook) : Json :=
  .array [.string book.title, .string book.author, .string book.shelf, book.added.json]

def body : BodyType NewBook := ⟨"bookshelf::types::NewBook", shape.decoder, json⟩

end NewBook

def Date.body : BodyType Date := ⟨"bookshelf::types::IsoDate", Date.decoder, Date.json⟩

end MarkedRoutes.Bookshelf
