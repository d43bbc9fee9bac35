import MarkedRoutes.Decimal.Reading
import MarkedRoutes.Decimal.Shortest

/-!
# Primitive types

Texts, truth values, characters, integers of twelve ranges and floating-point
numbers of two formats.  Each type has a name and a type of values, and each
value has a text.
-/

namespace MarkedRoutes.Serving

open MarkedRoutes.Decimal

/-- An integer type: whether it has negative numbers, and its width in bits. -/
inductive IntegerType where
  | i8
  | i16
  | i32
  | i64
  | i128
  | isize
  | u8
  | u16
  | u32
  | u64
  | u128
  | usize
  deriving DecidableEq, Repr

namespace IntegerType

def all : List IntegerType :=
  [i8, i16, i32, i64, i128, isize, u8, u16, u32, u64, u128, usize]

def name : IntegerType → String
  | i8 => "i8"
  | i16 => "i16"
  | i32 => "i32"
  | i64 => "i64"
  | i128 => "i128"
  | isize => "isize"
  | u8 => "u8"
  | u16 => "u16"
  | u32 => "u32"
  | u64 => "u64"
  | u128 => "u128"
  | usize => "usize"

/-- Whether an integer type has negative numbers. -/
def isSigned : IntegerType → Bool
  | i8 | i16 | i32 | i64 | i128 | isize => true
  | _ => false

def bits : IntegerType → Nat
  | i8 | u8 => 8
  | i16 | u16 => 16
  | i32 | u32 => 32
  | i64 | u64 | isize | usize => 64
  | i128 | u128 => 128

def least (type : IntegerType) : Int :=
  if type.isSigned then -(Nat.pow 2 (type.bits - 1) : Nat) else 0

def greatest (type : IntegerType) : Int :=
  ((if type.isSigned then Nat.pow 2 (type.bits - 1) else Nat.pow 2 type.bits : Nat) : Int) - 1

end IntegerType

/-- An integer of a type. -/
structure Integer (type : IntegerType) where
  value : Int
  least : type.least ≤ value
  greatest : value ≤ type.greatest
  deriving DecidableEq

namespace Integer

variable {type : IntegerType}

/-- The integer of a type with a value, when the value is in its range. -/
def ofInt? (type : IntegerType) (value : Int) : Option (Integer type) :=
  if inRange : type.least ≤ value ∧ value ≤ type.greatest then
    some ⟨value, inRange.1, inRange.2⟩
  else none

/-- The integer that a text writes.  A type without negative numbers takes no minus. -/
def ofText? (type : IntegerType) (text : String) : Option (Integer type) :=
  let value :=
    if type.isSigned then intOfText? text.toList else (natOfText? text.toList).map Int.ofNat
  value.bind (ofInt? type)

def text (integer : Integer type) : String := toString integer.value

end Integer

/-- A floating-point format among the primitive types. -/
inductive FloatingType where
  | f32
  | f64
  deriving DecidableEq, Repr

namespace FloatingType

def name : FloatingType → String
  | f32 => "f32"
  | f64 => "f64"

def format : FloatingType → Format
  | f32 => single
  | f64 => double

end FloatingType

/-- A primitive type. -/
inductive Primitive where
  | text
  | boolean
  | character
  | integer (type : IntegerType)
  | floating (type : FloatingType)
  deriving DecidableEq, Repr

namespace Primitive

def all : List Primitive :=
  [text, boolean, character] ++
    (IntegerType.all.map integer ++ [floating .f32, floating .f64])

def name : Primitive → String
  | text => "alloc::string::String"
  | boolean => "bool"
  | character => "char"
  | integer type => type.name
  | floating type => type.name

abbrev Carrier : Primitive → Type
  | text => String
  | boolean => Bool
  | character => Char
  | integer type => Integer type
  | floating _ => Floating

def ofText? : (type : Primitive) → String → Option type.Carrier
  | text, written => some written
  | boolean, written =>
    if written = "true" then some true else if written = "false" then some false else none
  | character, written =>
    match written.toList with
    | [c] => some c
    | _ => none
  | integer type, written => Integer.ofText? type written
  | floating type, written => type.format.ofText? written.toList

def valueText : (type : Primitive) → type.Carrier → String
  | text, value => value
  | boolean, value => if (value : Bool) then "true" else "false"
  | character, value => String.ofList [value]
  | integer _, value => Integer.text value
  | floating type, value => plainText type.format value

end Primitive

end MarkedRoutes.Serving
