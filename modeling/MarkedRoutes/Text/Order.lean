/-!
# The order of texts

Texts are ordered like the words of a dictionary, by the code points of their
characters.  The bytes in which texts are encoded have the same order.
-/

namespace MarkedRoutes.Text

/-- Whether characters stand before others: the first difference decides, and a text stands
before its continuations. -/
def charsPrecede : List Char → List Char → Bool
  | _, [] => false
  | [], _ :: _ => true
  | first :: rest, second :: others =>
    if first = second then charsPrecede rest others else Nat.blt first.toNat second.toNat

/-- Whether a text stands before another. -/
def precedes (first second : String) : Bool := charsPrecede first.toList second.toList

end MarkedRoutes.Text
