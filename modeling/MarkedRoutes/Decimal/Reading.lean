import MarkedRoutes.Decimal.Floating

/-!
# Reading numbers

Texts of integers and floating-point numbers.  An integer is a sign and decimal
digits, and a signless type takes no minus.  A floating-point number is a
decimal with an optional fraction and exponent, or names infinity or no number;
it stands for the nearest number of its format.
-/

namespace MarkedRoutes.Decimal

def digitValue? (c : Char) : Option Nat :=
  if '0' ≤ c && c ≤ '9' then some (c.toNat - '0'.toNat) else none

def isDigit (c : Char) : Bool := '0' ≤ c && c ≤ '9'

/-- The number that digits stand for after those of `value`. -/
def digitsValue (value : Nat) (digits : List Char) : Nat :=
  digits.foldl (fun total c => total * 10 + (c.toNat - '0'.toNat)) value

def natOfDigits? (text : List Char) : Option Nat :=
  if text.isEmpty || !text.all isDigit then none else some (digitsValue 0 text)

/-- The natural number of a text with an optional plus. -/
def natOfText? : List Char → Option Nat
  | '+' :: rest => natOfDigits? rest
  | text => natOfDigits? text

def intOfText? : List Char → Option Int
  | '-' :: rest => (natOfDigits? rest).map fun value => -(value : Int)
  | '+' :: rest => (natOfDigits? rest).map Int.ofNat
  | text => (natOfDigits? text).map Int.ofNat

/-- The number nearest to `digits * 10 ^ exponent`.  Far outside the range of a format
neither power is computed. -/
def Format.nearestDecimal (format : Format) (negative : Bool) (digits : Nat) (exponent : Int) :
    Floating :=
  let leading := exponent + (digits.log2 : Int) * 30103 / 100000
  if digits = 0 ∨ leading < -400 then .finite negative 0 format.minExponent
  else if 400 < leading then .infinite negative
  else if 0 ≤ exponent then format.nearest negative (digits * Nat.pow 10 exponent.toNat) 1
  else format.nearest negative digits (Nat.pow 10 (-exponent).toNat)

/-- The exponent part of a decimal: nothing, or a marked integer. -/
def exponentOfText? : List Char → Option Int
  | [] => some 0
  | c :: rest => if c == 'e' || c == 'E' then intOfText? rest else none

/-- The fraction digits of a decimal and what follows them. -/
def fractionDigits : List Char → List Char × List Char
  | '.' :: rest => rest.span isDigit
  | text => ([], text)

/-- The number that an unsigned text names or writes. -/
def Format.ofUnsigned? (format : Format) (negative : Bool) (text : List Char) :
    Option Floating :=
  let (whole, rest) := text.span isDigit
  let (fraction, rest) := fractionDigits rest
  if whole.isEmpty && fraction.isEmpty then
    match String.ofList (text.map Char.toLower) with
    | "inf" => some (.infinite negative)
    | "infinity" => some (.infinite negative)
    | "nan" => some .nan
    | _ => none
  else
    (exponentOfText? rest).map fun exponent =>
      format.nearestDecimal negative (digitsValue 0 (whole ++ fraction))
        (exponent - fraction.length)

/-- The number that a text stands for. -/
def Format.ofText? (format : Format) : List Char → Option Floating
  | '-' :: rest => format.ofUnsigned? true rest
  | '+' :: rest => format.ofUnsigned? false rest
  | text => format.ofUnsigned? false text

end MarkedRoutes.Decimal
