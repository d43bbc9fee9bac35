import MarkedRoutes.Serving.TypeCode
import MarkedRoutes.Text.Case
import MarkedRoutes.Text.Split

/-!
# Converters

A converter reads a value from the text in a path, query or header, and writes
the text of a value.
-/

namespace MarkedRoutes.Serving

/-- Conversion between the values of a type and their texts. -/
structure Converter (α : Type) where
  read : String → Option α
  write : α → String

namespace Converter

def primitive (type : Primitive) : Converter type.Carrier := ⟨type.ofText?, type.valueText⟩

/-- A converter whose texts begin with a mark. -/
def marked {α : Type} (mark : String) (converter : Converter α) : Converter α where
  read text :=
    (Text.dropFront? mark.toList text.toList).bind fun rest => converter.read (String.ofList rest)
  write value := mark ++ converter.write value

/-- Texts that are written in lower case and read as upper case. -/
def upperCase : Converter String := ⟨fun text => some (Text.upperCase text), Text.lowerCase⟩

end Converter

end MarkedRoutes.Serving
