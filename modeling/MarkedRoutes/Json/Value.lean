import MarkedRoutes.Decimal.Floating
import MarkedRoutes.Text.Order

/-!
# JSON values

The values that a JSON text stands for.  Whole numbers that fit into 64 bits are
exact and other numbers are floating-point.  An object that is read has its
members sorted by name, each name once; a record is written with its members in
its own order.
-/

namespace MarkedRoutes

/-- A number: a natural or negative integer of 64 bits, or a floating-point number. -/
inductive JsonNumber where
  | natural (value : Nat)
  | negative (value : Int)
  | floating (value : Decimal.Floating)
  deriving DecidableEq, Repr

/-- A JSON value. -/
inductive Json where
  | null
  | boolean (value : Bool)
  | number (value : JsonNumber)
  | string (value : String)
  | array (elements : List Json)
  | object (members : List (String × Json))
  deriving Repr, Inhabited

namespace Json

/-- Sets a member of a sorted list, in place of an earlier one of its name. -/
def setMember {α : Type} (name : String) (value : α) : List (String × α) → List (String × α)
  | [] => [(name, value)]
  | first :: rest =>
    if name = first.1 then (name, value) :: rest
    else if Text.precedes name first.1 then (name, value) :: first :: rest
    else first :: setMember name value rest

/-- The object with the given members; of two with one name the later counts. -/
def ofMembers (members : List (String × Json)) : Json :=
  .object (members.foldl (fun sorted member => setMember member.1 member.2 sorted) [])

mutual

def sorted : Json → Json
  | .array elements => .array (sortedElements elements)
  | .object members => ofMembers (sortedMembers members)
  | value => value

/-- The elements, each sorted. -/
def sortedElements : List Json → List Json
  | [] => []
  | first :: rest => first.sorted :: sortedElements rest

/-- The members in their order, each value sorted. -/
def sortedMembers : List (String × Json) → List (String × Json)
  | [] => []
  | (name, value) :: rest => (name, value.sorted) :: sortedMembers rest

end

def member? (name : String) : Json → Option Json
  | .object members => (members.find? fun member => member.1 = name).map Prod.snd
  | _ => none

def ofNat (value : Nat) : Json := .number (.natural value)

def ofInt (value : Int) : Json :=
  if value < 0 then .number (.negative value) else .number (.natural value.toNat)

/-- A text, or null. -/
def ofText? (text : Option String) : Json := (text.map Json.string).getD .null

end Json

end MarkedRoutes
