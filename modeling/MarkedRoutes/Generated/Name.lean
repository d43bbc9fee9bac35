import MarkedRoutes.Event

/-!
# Names of generated functions

Every generated function gets a name of its own.  A wanted name that is taken is
numbered: of `name_1`, `name_2`, … the first free one is used, and an event says
so.
-/

namespace MarkedRoutes

/-- The names in use, and the events of the names that had to be numbered. -/
structure NameTable where
  used : List String
  events : List Event
  deriving DecidableEq, Repr

def numberedName (name : String) (number : Nat) : String := name ++ "_" ++ toString number

/-- The first number from `number` on whose name is free, trying at most `bound` numbers
before the last.  Numbers have no bound of their own; a counter of 32 bits counts the same as
long as fewer than 2³¹ names are in use. -/
def freeNumber (used : List String) (name : String) : Nat → Nat → Nat
  | 0, number => number
  | bound + 1, number =>
    if used.contains (numberedName name number) then freeNumber used name bound (number + 1)
    else number

namespace NameTable

def ofName (name : String) : NameTable := ⟨[name], []⟩

/-- The name that is given when `name` is wanted.  Among one number more than there are
names in use, one is free. -/
def nameFor (table : NameTable) (name : String) : String :=
  if table.used.contains name then
    numberedName name (freeNumber table.used name table.used.length 1)
  else name

def numberingEvent (name given : String) : Event :=
  ⟨.warning, "Duplicate generated name", [("name", name), ("using", given)]⟩

def allocate (table : NameTable) (name : String) : String × NameTable :=
  let given := table.nameFor name
  let events := if given = name then [] else [numberingEvent name given]
  (given, ⟨table.used ++ [given], table.events ++ events⟩)

end NameTable

end MarkedRoutes
