import MarkedRoutes.Http.Request
import MarkedRoutes.Serving.Converter
import MarkedRoutes.Text.Order
import MarkedRoutes.Text.Quoted

/-!
# Registries

A registry holds at most one item for each type of values; a later item takes
the place of an earlier one.  A service has a registry of converters and one of
providers, which supply values for requests.
-/

namespace MarkedRoutes.Serving

open MarkedRoutes.Http

/-- An item for the values of one type. -/
structure Entry (κ : Type) [HostTypes κ] (F : Type → Type) where
  type : TypeCode κ
  item : F type.Carrier

/-- Items by the type of their values. -/
structure Registry (κ : Type) [HostTypes κ] (F : Type → Type) where
  entries : List (Entry κ F)

namespace Registry

variable {κ : Type} [HostTypes κ] [DecidableEq κ] {F : Type → Type}

def empty : Registry κ F := ⟨[]⟩

def find? (type : TypeCode κ) : List (Entry κ F) → Option (F type.Carrier)
  | [] => none
  | entry :: others =>
    if same : entry.type = type then some (same ▸ entry.item) else find? type others

def get? (registry : Registry κ F) (type : TypeCode κ) : Option (F type.Carrier) :=
  find? type registry.entries

/-- The registry with an item for a type, in place of any earlier one. -/
def register (registry : Registry κ F) (type : TypeCode κ) (item : F type.Carrier) :
    Registry κ F :=
  ⟨registry.entries.filter (fun entry => entry.type ≠ type) ++ [⟨type, item⟩]⟩

def size (registry : Registry κ F) : Nat := registry.entries.length

/-- The names of the types, sorted. -/
def typeNames (registry : Registry κ F) : List String :=
  (registry.entries.map fun entry => entry.type.name).mergeSort fun first second =>
    !Text.precedes second first

end Registry

/-- Supplies a value for a request. -/
abbrev Provider (α : Type) := Request → α

/-- The converters and providers of a service. -/
structure Registries (κ : Type) [HostTypes κ] where
  converters : Registry κ Converter
  providers : Registry κ Provider

namespace Registries

variable {κ : Type} [HostTypes κ] [DecidableEq κ]

def empty : Registries κ := ⟨.empty, .empty⟩

def withConverter (registries : Registries κ) (type : TypeCode κ)
    (converter : Converter type.Carrier) : Registries κ :=
  { registries with converters := registries.converters.register type converter }

def withProvider (registries : Registries κ) (type : TypeCode κ)
    (provider : Provider type.Carrier) : Registries κ :=
  { registries with providers := registries.providers.register type provider }

/-- The converters of the primitive types, and no providers. -/
def standard : Registries κ :=
  Primitive.all.foldl (fun registries type =>
    registries.withConverter (.primitive type) (.primitive type)) empty

/-- Names of types between brackets. -/
def nameList (names : List String) : String :=
  "[" ++ Text.joinTexts ", " (names.map Text.quoted) ++ "]"

def registryText (label : String) (names : List String) : String :=
  label ++ " \x7b types: " ++ nameList names ++ " \x7d"

/-- The registries as a text that names their types. -/
def text (registries : Registries κ) : String :=
  "RoutingConfig \x7b converters: " ++
    registryText "ConverterRegistry" registries.converters.typeNames ++ ", providers: " ++
    registryText "ProviderRegistry" registries.providers.typeNames ++ " \x7d"

end Registries

end MarkedRoutes.Serving
