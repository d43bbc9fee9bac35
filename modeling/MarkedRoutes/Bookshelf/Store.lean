import MarkedRoutes.Bookshelf.Book

/-!
# The store of books

The store numbers books from one in the order in which they are added, and never
gives a number twice.  Its lists are in the order of the numbers.
-/

namespace MarkedRoutes.Bookshelf

/-- The books on the shelves, by rising number, and the number given last. -/
structure Store where
  lastId : Nat
  books : List Book
  deriving DecidableEq, Repr

namespace Store

def empty : Store := ⟨0, []⟩

/-- Adds a book under the next number. -/
def add (store : Store) (book : NewBook) : Book × Store :=
  let added := book.withId (store.lastId + 1)
  (added, ⟨store.lastId + 1, store.books ++ [added]⟩)

def get? (store : Store) (id : Nat) : Option Book := store.books.find? fun book => book.id = id

/-- Removes the book of a number, and tells whether there was one. -/
def remove (store : Store) (id : Nat) : Bool × Store :=
  ((store.get? id).isSome, { store with books := store.books.filter fun book => book.id ≠ id })

/-- The books of an author, or all books, up to a number of them. -/
def list (store : Store) (author : Option String) (limit : Option Nat) : List Book :=
  let chosen := store.books.filter fun book => author.all (book.author = ·)
  match limit with
  | some count => chosen.take count
  | none => chosen

/-- The books on a shelf, from a date on when one is given. -/
def onShelf (store : Store) (shelf : String) (since : Option Date) : List Book :=
  store.books.filter fun book => book.shelf = shelf && since.all fun date => date.isUpTo book.added

end Store

end MarkedRoutes.Bookshelf
