import MarkedRoutes.Decimal.Floating

/-!
# Shortest decimals

The decimal that stands for a floating-point number has the fewest digits among
those that read back as the number, and of these it is the one nearest to it.
The decimals that read back lie between the midpoints to the neighbouring
numbers, the midpoints included when the significand is even.
-/

namespace MarkedRoutes.Decimal

/-- A decimal: digits times a power of ten. -/
structure Digits where
  value : Nat
  exponent : Int
  deriving DecidableEq, Repr

/-- The number of a positive significand with its two midpoints, in quarters of the last bit. -/
structure Neighbourhood where
  lower : Nat
  middle : Nat
  upper : Nat
  exponent : Int
  inclusive : Bool

/-- The neighbourhood of a finite number.  Below a power of two the numbers lie twice as
close. -/
def Format.neighbourhood (format : Format) (significand : Nat) (exponent : Int) :
    Neighbourhood where
  lower :=
    if significand = Nat.pow 2 (format.precision - 1) ∧ format.minExponent < exponent then
      4 * significand - 1
    else 4 * significand - 2
  middle := 4 * significand
  upper := 4 * significand + 2
  exponent := exponent - 2
  inclusive := significand % 2 = 0

namespace Neighbourhood

/-- `quarters * 2 ^ exponent`, scaled so that it compares with `scaledDecimal`. -/
def scaled (around : Neighbourhood) (place : Int) (quarters : Nat) : Nat :=
  quarters * Nat.pow 2 around.exponent.toNat * Nat.pow 10 (-place).toNat

/-- `digits * 10 ^ place`, scaled so that it compares with `scaled`. -/
def scaledDecimal (around : Neighbourhood) (place : Int) (digits : Nat) : Nat :=
  digits * Nat.pow 10 place.toNat * Nat.pow 2 (-around.exponent).toNat

/-- Whether a decimal reads back as the number. -/
def holds (around : Neighbourhood) (place : Int) (digits : Nat) : Bool :=
  let decimal := around.scaledDecimal place digits
  let lower := around.scaled place around.lower
  let upper := around.scaled place around.upper
  if around.inclusive then lower ≤ decimal && decimal ≤ upper
  else lower < decimal && decimal < upper

/-- The number of units of a decimal place that fit into the number. -/
def floorAt (around : Neighbourhood) (place : Int) : Nat :=
  around.scaled place around.middle / around.scaledDecimal place 1

/-- The better of two decimals that follow each other around the number.  `evenTies` says
that a tie goes to the even one; otherwise it goes up. -/
def nearer (around : Neighbourhood) (evenTies : Bool) (place : Int) (digits : Nat) : Nat :=
  let middle := around.scaled place around.middle
  let below := middle - around.scaledDecimal place digits
  let above := around.scaledDecimal place (digits + 1) - middle
  if below < above then digits
  else if above < below then digits + 1
  else if evenTies && digits % 2 == 0 then digits
  else digits + 1

/-- The decimal on the grid of a place that reads back, if there is one. -/
def onGrid (around : Neighbourhood) (evenTies : Bool) (place : Int) : Option Nat :=
  let below := around.floorAt place
  match around.holds place below, around.holds place (below + 1) with
  | true, true => some (around.nearer evenTies place below)
  | true, false => some below
  | false, true => some (below + 1)
  | false, false => none

/-- The decimal on the coarsest grid that has one, from a place downward. -/
def search (around : Neighbourhood) (evenTies : Bool) : Nat → Int → Digits
  | 0, place => ⟨around.floorAt place, place⟩
  | fuel + 1, place =>
    match around.onGrid evenTies place with
    | some digits => ⟨digits, place⟩
    | none => search around evenTies fuel (place - 1)

/-- A decimal place beyond the number: more than its count of bits times `log 2`. -/
def topPlace (around : Neighbourhood) : Int :=
  (((around.upper.log2 : Int) + 1 + around.exponent) * 30103) / 100000 + 2

end Neighbourhood

/-- The shortest decimal of a positive number.  No number of a format with at most 53 bits
needs more than 17 digits, and the search starts less than four places above the first. -/
def Format.shortest (format : Format) (evenTies : Bool) (significand : Nat) (exponent : Int) :
    Digits :=
  let around := format.neighbourhood significand exponent
  around.search evenTies 24 around.topPlace

def digitChars (value : Nat) : List Char := Nat.toDigits 10 value

/-- A decimal in positional notation.  `point` is written behind a number without a
fraction. -/
def positional (digits : Digits) (point : List Char) : List Char :=
  let written := digitChars digits.value
  if 0 ≤ digits.exponent then
    written ++ List.replicate digits.exponent.toNat '0' ++ point
  else
    let places := (-digits.exponent).toNat
    if places < written.length then
      written.take (written.length - places) ++ '.' :: written.drop (written.length - places)
    else '0' :: '.' :: (List.replicate (places - written.length) '0' ++ written)

/-- A decimal in exponential notation: one digit before the point, and the exponent with
its sign. -/
def exponential (digits : Digits) : List Char :=
  let written := digitChars digits.value
  let exponent := digits.exponent + (written.length - 1 : Nat)
  let fraction := if written.length ≤ 1 then [] else '.' :: written.drop 1
  let sign := if exponent < 0 then '-' else '+'
  written.take 1 ++ fraction ++ 'e' :: sign :: digitChars exponent.natAbs

def Digits.leading (digits : Digits) : Int :=
  digits.exponent + ((digitChars digits.value).length - 1 : Nat)

def signChars (negative : Bool) : List Char := if negative then ['-'] else []

/-- The text of a number in plain notation, never with an exponent. -/
def plainText (format : Format) : Floating → String
  | .nan => "NaN"
  | .infinite negative => String.ofList (signChars negative ++ "inf".toList)
  | .finite negative 0 _ => String.ofList (signChars negative ++ ['0'])
  | .finite negative (significand + 1) exponent =>
    String.ofList (signChars negative ++
      positional (format.shortest false (significand + 1) exponent) [])

end MarkedRoutes.Decimal
