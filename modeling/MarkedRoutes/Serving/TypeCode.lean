import MarkedRoutes.Serving.Primitive
import MarkedRoutes.Text.Split

/-!
# Types of values

A host adds types of its own to the primitive ones.  The code of a type names
it, and each code has a type of values.
-/

namespace MarkedRoutes.Serving

/-- The types that a host adds, with their names and their values. -/
class HostTypes (κ : Type) where
  all : List κ
  name : κ → String
  Carrier : κ → Type

/-- A type of values: a primitive one, or one of the host's. -/
inductive TypeCode (κ : Type) where
  | primitive (type : Primitive)
  | host (type : κ)
  deriving DecidableEq, Repr

namespace TypeCode

variable {κ : Type} [HostTypes κ]

def all : List (TypeCode κ) := Primitive.all.map primitive ++ HostTypes.all.map host

def name : TypeCode κ → String
  | primitive type => type.name
  | host type => HostTypes.name type

/-- The last segment of a type's name. -/
def shortName (type : TypeCode κ) : String :=
  String.ofList ((Text.splitOnColons type.name.toList).getLastD [])

def ofShortName? (name : String) : Option (TypeCode κ) :=
  all.find? fun type => type.shortName = name

abbrev Carrier : TypeCode κ → Type
  | primitive type => type.Carrier
  | host type => HostTypes.Carrier type

abbrev text : TypeCode κ := primitive .text

abbrev integer (type : IntegerType) : TypeCode κ := primitive (.integer type)

end TypeCode

end MarkedRoutes.Serving
