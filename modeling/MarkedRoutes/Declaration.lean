import MarkedRoutes.Location
import MarkedRoutes.Marker

/-!
# Declarations

The declaration tree keeps of a source file what routes are made of: each loaded
item with its markers, its place, and the signature of a function or the
children of a module.  Beside the tree stand the converters that the file
implements.
-/

namespace MarkedRoutes

open MarkedRoutes.Source

/-- What kind of item a declaration is. -/
inductive DeclarationKind where
  | module
  | function
  | record
  | enumeration
  | interface
  | implementation
  | other
  deriving DecidableEq, Repr

def DeclarationKind.name : DeclarationKind → String
  | module => "module"
  | function => "function"
  | record => "struct"
  | enumeration => "enum"
  | interface => "trait"
  | implementation => "impl block"
  | other => "item"

/-- A parameter's type as far as values are concerned: its text, the text of the value
type (`T` for `Option<T>`), and whether a value may be missing. -/
structure ValueType where
  text : String
  base : String
  isOptional : Bool
  deriving DecidableEq, Repr

def ValueType.ofType (type : TypeExpr) : ValueType :=
  match type.optionValue? with
  | some value => ⟨type.canonical, value.canonical, true⟩
  | none => ⟨type.canonical, type.canonical, false⟩

/-- A declared parameter.  The name is missing when the pattern is no plain identifier. -/
structure DeclaredParameter where
  name : Option String
  type : TypeExpr
  position : Nat
  markers : List ParameterMarker

def DeclaredParameter.valueType (parameter : DeclaredParameter) : ValueType :=
  .ofType parameter.type

/-- What a function takes and returns. -/
structure HandlerSignature where
  parameters : List DeclaredParameter
  output : Option TypeExpr
  isAsync : Bool
  hasReceiver : Bool
  hasGenerics : Bool

/-- A node of the declaration tree.  `hasBody` is for modules: whether the content stands
in the same file. -/
structure Declaration where
  name : String
  kind : DeclarationKind
  visibility : Visibility
  markers : List Marker
  children : List Declaration
  signature : Option HandlerSignature
  hasBody : Bool
  location : Location

namespace Declaration

/-- The base path of the first group marker. -/
def groupBase? (declaration : Declaration) : Option String :=
  declaration.markers.findSome? fun marker =>
    match marker with
    | .group base => some base
    | .method _ _ => none

/-- Whether a group marker stands on the declaration. -/
def isGroup (declaration : Declaration) : Bool := declaration.groupBase?.isSome

/-- The method markers, each with its method and path as written. -/
def methods (declaration : Declaration) : List (String × String) :=
  declaration.markers.filterMap fun marker =>
    match marker with
    | .method method path => some (method, path)
    | .group _ => none

end Declaration

/-- An implementation of a converter: the converting type, the converted type and the
module that holds the implementation. -/
structure ConverterDeclaration where
  converter : String
  target : String
  modulePath : String
  location : Location
  deriving DecidableEq, Repr

/-- The declarations of one source file mounted at a module path. -/
structure SourceUnit where
  modulePath : String
  file : String
  items : List Declaration

/-- A source file that was read: its declarations and converters. -/
structure LoadedSource where
  unit : SourceUnit
  converters : List ConverterDeclaration

/-- A module path one level down. -/
def childPath (modulePath name : String) : String := modulePath ++ "::" ++ name

/-- The name under which a parameter is reported. -/
def parameterLabel (parameter : Parameter) : String :=
  parameter.name.getD (canonicalText parameter.pattern)

def HandlerSignature.ofSignature [SourceParser] (signature : Signature) : HandlerSignature where
  parameters := signature.parameters.mapIdx fun position parameter =>
    { name := parameter.name
      type := parameter.type
      position
      markers := goodMarkers parameterMarker? parameter.attributes }
  output := signature.output
  isAsync := signature.isAsync
  hasReceiver := signature.hasReceiver
  hasGenerics := signature.hasGenerics

def DeclarationKind.ofNamed : NamedKind → DeclarationKind
  | .structType => .record
  | .enumType => .enumeration
  | .traitDefinition => .interface
  | _ => .other

mutual

/-- The declaration that an item loads as; items of the other kinds load as nothing. -/
def declarationOfItem? [SourceParser] (file : String) : Item → Option Declaration
  | .module attributes visibility name line content =>
    some
      { name, kind := .module, visibility
        markers := goodMarkers itemMarker? attributes
        children := (match content with
          | some items => declarationsOfItems file items
          | none => [])
        signature := none
        hasBody := content.isSome
        location := ⟨file, line⟩ }
  | .function attributes visibility signature =>
    some
      { name := signature.name, kind := .function, visibility
        markers := goodMarkers itemMarker? attributes
        children := []
        signature := some (.ofSignature signature)
        hasBody := false
        location := ⟨file, signature.line⟩ }
  | .implementation attributes line _ subject =>
    some
      { name := subject.canonical, kind := .implementation, visibility := .inherited
        markers := goodMarkers itemMarker? attributes
        children := [], signature := none, hasBody := false
        location := ⟨file, line⟩ }
  | .named kind attributes visibility name line =>
    some
      { name, kind := .ofNamed kind, visibility
        markers := goodMarkers itemMarker? attributes
        children := [], signature := none, hasBody := false
        location := ⟨file, line⟩ }
  | .other _ => none

/-- The declarations of a list of items, in order. -/
def declarationsOfItems [SourceParser] (file : String) : List Item → List Declaration
  | [] => []
  | first :: rest =>
    match declarationOfItem? file first with
    | some declaration => declaration :: declarationsOfItems file rest
    | none => declarationsOfItems file rest

end

/-- The converter that an implementation declares: its interface ends in `Converter<T>`
with exactly one type argument.  Nothing looks at whether the implementation is negative. -/
def converterOfImplementation? (file modulePath : String) (line : Nat)
    (interface : ImplementedInterface) (subject : TypeExpr) : Option ConverterDeclaration :=
  match interface.path.segments.getLast? with
  | some (.mk "Converter" (some arguments)) =>
    match arguments.types with
    | [target] => some ⟨subject.canonical, target.canonical, modulePath, ⟨file, line⟩⟩
    | _ => none
  | _ => none

mutual

/-- The converters that an item declares, in traversal order. -/
def convertersOfItem (file modulePath : String) : Item → List ConverterDeclaration
  | .module _ _ name _ (some items) => convertersOfItems file (childPath modulePath name) items
  | .implementation _ line (some interface) subject =>
    (converterOfImplementation? file modulePath line interface subject).toList
  | _ => []

def convertersOfItems (file modulePath : String) : List Item → List ConverterDeclaration
  | [] => []
  | first :: rest =>
    convertersOfItem file modulePath first ++ convertersOfItems file modulePath rest

end

end MarkedRoutes
