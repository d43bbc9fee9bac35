import MarkedRoutes.Json.Cursor

/-!
# Numbers in JSON texts

A whole number that fits into 64 bits is exact.  Every other number becomes
floating-point: as many leading digits as fit into 64 bits are rounded, and the
result is multiplied or divided by a rounded power of ten.  Numbers beyond the
range of floating-point are a fault.
-/

namespace MarkedRoutes.Json

open MarkedRoutes.Decimal

/-- The largest number of 64 bits. -/
def maxNatural : Nat := Nat.pow 2 64 - 1

/-- Appends digits to a number as long as it fits into 64 bits; also the count of those
appended. -/
def appendDigits (value count : Nat) : List UInt8 → Nat × Nat
  | [] => (value, count)
  | byte :: rest =>
    let next := value * 10 + (byte.toNat - 48)
    if next ≤ maxNatural then appendDigits next (count + 1) rest else (value, count)

def digitsAt (cursor : Cursor) : List UInt8 := cursor.rest.takeWhile isDigitByte

def skipDigits (cursor : Cursor) : Cursor := cursor.advanceBy (digitsAt cursor).length

def powerOfTen (exponent : Nat) : Floating := double.nearest false (Nat.pow 10 exponent) 1

/-- The rounded product of two magnitudes. -/
def multiply : Floating → Floating → Floating
  | .finite _ m p, .finite _ n q =>
    let (a, b) := Floating.ratio m p
    let (c, d) := Floating.ratio n q
    double.nearest false (a * c) (b * d)
  | _, _ => .infinite false

/-- The rounded quotient of two magnitudes. -/
def divide : Floating → Floating → Floating
  | .finite _ m p, .finite _ n q =>
    let (a, b) := Floating.ratio m p
    let (c, d) := Floating.ratio n q
    double.nearest false (a * d) (b * c)
  | _, _ => .nan

/-- Scales a magnitude by a power of ten, by at most 308 places at a time.  A magnitude of
64 bits is zero after three steps down. -/
def scale : Nat → Floating → Int → Option Floating
  | 0, _, _ => some (.finite false 0 double.minExponent)
  | fuel + 1, value, exponent =>
    if exponent.natAbs ≤ 308 then
      if exponent < 0 then some (divide value (powerOfTen exponent.natAbs))
      else
        match multiply value (powerOfTen exponent.natAbs) with
        | .finite negative significand place => some (.finite negative significand place)
        | _ => none
    else if value.isZero then some value
    else if 0 ≤ exponent then none
    else scale fuel (divide value (powerOfTen 308)) (exponent + 308)

/-- Gives a magnitude its sign. -/
def withSign (positive : Bool) (value : Floating) : JsonNumber :=
  .floating (if positive then value else value.negate)

/-- The floating-point number `significand * 10 ^ exponent`, read up to a cursor. -/
def floatingOf (positive : Bool) (significand : Nat) (exponent : Int) (cursor : Cursor) :
    Except Failure (JsonNumber × Cursor) :=
  match scale 4 (double.nearest false significand 1) exponent with
  | some value => .ok (withSign positive value, cursor)
  | none => cursor.fail .numberOutOfRange

/-- The largest exponent that is kept. -/
def maxExponent : Nat := Nat.pow 2 31 - 1

/-- The value of exponent digits, or the count of digits that are too many. -/
def exponentValue (value count : Nat) : List UInt8 → Nat ⊕ Nat
  | [] => .inl value
  | byte :: rest =>
    let next := value * 10 + (byte.toNat - 48)
    if next ≤ maxExponent then exponentValue next (count + 1) rest else .inr (count + 1)

def exponentSign (cursor : Cursor) : Bool × Cursor :=
  if cursor.startsWith '+' then (true, cursor.advance)
  else if cursor.startsWith '-' then (false, cursor.advance)
  else (true, cursor)

/-- Reads an exponent, the cursor standing before its mark. -/
def readExponent (positive : Bool) (significand : Nat) (start : Int) (cursor : Cursor) :
    Except Failure (JsonNumber × Cursor) :=
  let (positiveExponent, cursor) := exponentSign cursor.advance
  match cursor.peek? with
  | none => cursor.fail .endInValue
  | some byte =>
    if !isDigitByte byte then cursor.advance.fail .invalidNumber
    else
      match exponentValue 0 0 (digitsAt cursor) with
      | .inl value =>
        let exponent := if positiveExponent then start + value else start - value
        floatingOf positive significand exponent (skipDigits cursor)
      | .inr count =>
        if significand ≠ 0 && positiveExponent then
          (cursor.advanceBy count).fail .numberOutOfRange
        else .ok (withSign positive (.finite false 0 double.minExponent), skipDigits cursor)

/-- Whether a cursor stands before an exponent. -/
def startsExponent (cursor : Cursor) : Bool := cursor.startsWith 'e' || cursor.startsWith 'E'

/-- The end of a number that is floating-point: an exponent or nothing. -/
def finishFloating (positive : Bool) (significand : Nat) (exponent : Int) (cursor : Cursor) :
    Except Failure (JsonNumber × Cursor) :=
  if startsExponent cursor then readExponent positive significand exponent cursor
  else floatingOf positive significand exponent cursor

/-- Reads a fraction, the cursor standing before its point. -/
def readFraction (positive : Bool) (significand : Nat) (start : Int) (cursor : Cursor) :
    Except Failure (JsonNumber × Cursor) :=
  let cursor := cursor.advance
  match digitsAt cursor with
  | [] =>
    if cursor.rest.isEmpty then cursor.failNext .endInValue
    else cursor.failNext .invalidNumber
  | digits =>
    let (value, count) := appendDigits significand 0 digits
    finishFloating positive value (start - count) (skipDigits cursor)

/-- An exact whole number; a negative one that needs more than 64 bits, or is zero, is
floating-point. -/
def wholeNumber (positive : Bool) (significand : Nat) : JsonNumber :=
  if positive then .natural significand
  else if significand = 0 || Nat.pow 2 63 < significand then
    .floating (double.nearest true significand 1)
  else .negative (-(significand : Int))

/-- Reads what follows the digits before the point; `dropped` digits did not fit. -/
def finishNumber (positive : Bool) (significand dropped : Nat) (cursor : Cursor) :
    Except Failure (JsonNumber × Cursor) :=
  if cursor.startsWith '.' then readFraction positive significand dropped cursor
  else if startsExponent cursor || dropped ≠ 0 then
    finishFloating positive significand dropped cursor
  else .ok (wholeNumber positive significand, cursor)

/-- Reads a number behind its sign. -/
def readNumber (positive : Bool) (cursor : Cursor) : Except Failure (JsonNumber × Cursor) :=
  match cursor.peek? with
  | none => cursor.fail .endInValue
  | some byte =>
    if byteChar byte = '0' then
      if cursor.advance.startsDigit then cursor.advance.failNext .invalidNumber
      else finishNumber positive 0 0 cursor.advance
    else if isDigitByte byte then
      let digits := digitsAt cursor
      let (significand, count) := appendDigits 0 0 digits
      finishNumber positive significand (digits.length - count) (skipDigits cursor)
    else cursor.advance.fail .invalidNumber

/-- Skips an exponent, the cursor standing before its mark. -/
def skipExponent (cursor : Cursor) : Except Failure (Unit × Cursor) :=
  let (_, cursor) := exponentSign cursor.advance
  if cursor.startsDigit then .ok ((), skipDigits cursor)
  else cursor.advance.fail .invalidNumber

/-- Skips an exponent when there is one. -/
def skipOptionalExponent (cursor : Cursor) : Except Failure (Unit × Cursor) :=
  if startsExponent cursor then skipExponent cursor else .ok ((), cursor)

/-- Skips what follows the digits before the point. -/
def skipNumberEnd (cursor : Cursor) : Except Failure (Unit × Cursor) :=
  if cursor.startsWith '.' then
    if cursor.advance.startsDigit then skipOptionalExponent (skipDigits cursor.advance)
    else cursor.advance.failNext .invalidNumber
  else skipOptionalExponent cursor

/-- Skips a number behind its sign. -/
def skipNumber (cursor : Cursor) : Except Failure (Unit × Cursor) :=
  if cursor.startsWith '0' then
    if cursor.advance.startsDigit then cursor.advance.failNext .invalidNumber
    else skipNumberEnd cursor.advance
  else if cursor.startsDigit then skipNumberEnd (skipDigits cursor)
  else cursor.advance.fail .invalidNumber

end MarkedRoutes.Json
