import MarkedRoutes.Source.TypeExpr

/-!
# Items of a source file

What a routes file declares: modules with their content, functions with their
signatures, implementations, other named items, and items that cannot carry a
marker of interest.  Bodies are balanced token groups that nothing looks into.
-/

namespace MarkedRoutes.Source

/-- What follows the path of an attribute. -/
inductive AttributeInput where
  | bare
  | list (tokens : List Token)
  | value (tokens : List Token)

/-- An attribute: the names of its path as written, and its input.  An inner attribute
stands inside the body it belongs to. -/
structure Attribute where
  isInner : Bool
  rooted : Bool
  path : List String
  input : AttributeInput

/-- The last name of the attribute's path. -/
def Attribute.name (marked : Attribute) : String := marked.path.getLast?.getD ""

/-- How far a declaration can be seen. -/
inductive Visibility where
  | everywhere
  | restricted
  | inherited
  deriving DecidableEq, Repr

/-- A function parameter other than the receiver.  `name` is missing when the pattern is
more than an identifier. -/
structure Parameter where
  attributes : List Attribute
  name : Option String
  pattern : List Token
  type : TypeExpr

/-- The head of a function. -/
structure Signature where
  name : String
  line : Nat
  parameters : List Parameter
  output : Option TypeExpr
  isAsync : Bool
  hasReceiver : Bool
  hasGenerics : Bool

/-- Items that carry a name and no further structure of interest. -/
inductive NamedKind where
  | structType
  | enumType
  | traitDefinition
  | constant
  | staticValue
  | typeAlias
  | unionType
  deriving DecidableEq, Repr

/-- The interface that an implementation is for.  A negative implementation denies it. -/
structure ImplementedInterface where
  isNegative : Bool
  path : Path

/-- An item of a source file. -/
inductive Item where
  | module (attributes : List Attribute) (visibility : Visibility) (name : String) (line : Nat)
      (content : Option (List Item))
  | function (attributes : List Attribute) (visibility : Visibility) (signature : Signature)
  | implementation (attributes : List Attribute) (line : Nat)
      (interface : Option ImplementedInterface) (subject : TypeExpr)
  | named (kind : NamedKind) (attributes : List Attribute) (visibility : Visibility)
      (name : String) (line : Nat)
  | other (attributes : List Attribute)

/-- The attributes of an item, those inside its body last. -/
def Item.attributes : Item → List Attribute
  | .module attributes .. => attributes
  | .function attributes .. => attributes
  | .implementation attributes .. => attributes
  | .named _ attributes .. => attributes
  | .other attributes => attributes

end MarkedRoutes.Source
