/-!
# Floating-point numbers

A floating-point number is a significand times a power of two, with a sign.  A
format bounds the significand and the exponent, and every ratio of naturals has
a nearest number in it, a tie going to the even significand.
-/

namespace MarkedRoutes.Decimal

/-- A binary floating-point format: bits of the significand, and the smallest and largest
exponent of its last bit. -/
structure Format where
  precision : Nat
  minExponent : Int
  maxExponent : Int
  deriving DecidableEq, Repr

/-- The format with 24 bits of significand. -/
def single : Format := ⟨24, -149, 104⟩

/-- The format with 53 bits of significand. -/
def double : Format := ⟨53, -1074, 971⟩

/-- A floating-point number. -/
inductive Floating where
  | finite (negative : Bool) (significand : Nat) (exponent : Int)
  | infinite (negative : Bool)
  | nan
  deriving DecidableEq, Repr

/-- The quotient rounded to the nearest natural, a tie to the even one. -/
def roundHalfEven (numerator denominator : Nat) : Nat :=
  let quotient := numerator / denominator
  let remainder := numerator % denominator
  if 2 * remainder < denominator then quotient
  else if denominator < 2 * remainder then quotient + 1
  else if quotient % 2 = 0 then quotient
  else quotient + 1

def overPower (numerator denominator : Nat) (exponent : Int) : Nat × Nat :=
  if 0 ≤ exponent then (numerator, denominator * Nat.pow 2 exponent.toNat)
  else (numerator * Nat.pow 2 (-exponent).toNat, denominator)

/-- The exponent of the last bit when a positive ratio is written with a full significand,
or the smallest exponent of the format. -/
def Format.exponentOf (format : Format) (numerator denominator : Nat) : Int :=
  let guess : Int := (numerator.log2 : Int) - denominator.log2 - (format.precision - 1)
  let (top, bottom) := overPower numerator denominator guess
  let exact := if top / bottom < Nat.pow 2 (format.precision - 1) then guess - 1 else guess
  max exact format.minExponent

/-- The number of a format nearest to a ratio; ratios beyond its range become infinite. -/
def Format.nearest (format : Format) (negative : Bool) (numerator denominator : Nat) :
    Floating :=
  if numerator = 0 then .finite negative 0 format.minExponent
  else
    let exponent := format.exponentOf numerator denominator
    let (top, bottom) := overPower numerator denominator exponent
    let rounded := roundHalfEven top bottom
    let (significand, exponent) :=
      if rounded = Nat.pow 2 format.precision then
        (Nat.pow 2 (format.precision - 1), exponent + 1)
      else (rounded, exponent)
    if format.maxExponent < exponent then .infinite negative
    else .finite negative significand exponent

namespace Floating

/-- Whether the number is zero of either sign. -/
def isZero : Floating → Bool
  | finite _ significand _ => significand == 0
  | _ => false

/-- The magnitude of a finite number as a ratio of naturals. -/
def ratio (significand : Nat) (exponent : Int) : Nat × Nat :=
  if 0 ≤ exponent then (significand * Nat.pow 2 exponent.toNat, 1)
  else (significand, Nat.pow 2 (-exponent).toNat)

/-- The number with the other sign. -/
def negate : Floating → Floating
  | finite negative significand exponent => finite (!negative) significand exponent
  | infinite negative => infinite !negative
  | nan => nan

end Floating

end MarkedRoutes.Decimal
