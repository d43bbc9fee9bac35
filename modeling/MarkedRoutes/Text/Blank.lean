/-!
# Blank characters

The Unicode property `White_Space`, and the control characters.
-/

namespace MarkedRoutes.Text

/-- The Unicode property `White_Space`. -/
def isBlank (c : Char) : Bool :=
  let point := c.toNat
  (0x9 ≤ point && point ≤ 0xD) || point == 0x20 || point == 0x85 || point == 0xA0 ||
    point == 0x1680 || (0x2000 ≤ point && point ≤ 0x200A) || point == 0x2028 ||
    point == 0x2029 || point == 0x202F || point == 0x205F || point == 0x3000

/-- Control characters: the general category `Cc`. -/
def isControl (c : Char) : Bool :=
  let point := c.toNat
  point < 0x20 || (0x7F ≤ point && point ≤ 0x9F)

/-- The text without blank characters at either end. -/
def trimBlank (text : List Char) : List Char :=
  ((text.dropWhile isBlank).reverse.dropWhile isBlank).reverse

end MarkedRoutes.Text
