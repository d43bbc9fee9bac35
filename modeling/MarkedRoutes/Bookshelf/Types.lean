import MarkedRoutes.Bookshelf.Date
import MarkedRoutes.Serving.Registry

/-!
# Types of the bookshelf

Beside the primitive types the bookshelf has dates, tags, the answer and one
type that nothing supplies.  Dates have a registered converter; tags are read by
a converter that has to be named.
-/

namespace MarkedRoutes.Bookshelf

open MarkedRoutes.Serving

/-- A free-form label. -/
structure Tag where
  label : String
  deriving DecidableEq, Repr

/-- A number that a provider supplies. -/
structure Answer where
  number : Integer .i32
  deriving DecidableEq

/-- A value that nothing supplies. -/
structure Unprovided where
  deriving DecidableEq, Repr

/-- The types that the bookshelf adds. -/
inductive ShelfType where
  | date
  | tag
  | answer
  | unprovided
  deriving DecidableEq, Repr

instance : HostTypes ShelfType where
  all := [.date, .tag, .answer, .unprovided]
  name
    | .date => "bookshelf::types::IsoDate"
    | .tag => "bookshelf::types::Tag"
    | .answer => "bookshelf::types::Answer"
    | .unprovided => "bookshelf::types::Unprovided"
  Carrier
    | .date => Date
    | .tag => Tag
    | .answer => Answer
    | .unprovided => Unprovided

/-- A value as it is shown: a primitive value or a date by its text, any other value with the
name of its type. -/
def shownValue : (type : TypeCode ShelfType) → type.Carrier → String
  | .primitive type, value => type.valueText value
  | .host .date, value => Date.text value
  | .host .tag, value => "Tag(" ++ Tag.label value ++ ")"
  | .host .answer, value => "Answer(" ++ Integer.text (Answer.number value) ++ ")"
  | .host .unprovided, _ => "Unprovided"

/-- The converter of tags, which are not empty. -/
def Tag.converter : Converter Tag where
  read written := if written.toList.isEmpty then none else some ⟨written⟩
  write := Tag.label

/-- The tag in a request's header, or a tag that says there is none. -/
def Tag.ofRequest : Provider Tag := fun request => ⟨(request.header? "x-tag").getD "none"⟩

def requestLine : Provider String := fun request => request.method.name ++ " " ++ request.path

/-- The answer with a number, as a provider. -/
def Answer.provider (answer : Answer) : Provider Answer := fun _ => answer

def Answer.standard : Answer := ⟨42, by decide, by decide⟩

end MarkedRoutes.Bookshelf
