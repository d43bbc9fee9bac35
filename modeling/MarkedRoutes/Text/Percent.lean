import MarkedRoutes.Text.Utf8

/-!
# Percent-encoding

A percent sign before two hexadecimal digits stands for one byte.  A percent
sign before anything else stands for itself.
-/

namespace MarkedRoutes.Text

def percentByte : UInt8 := 37

def hexDigitValue? (byte : UInt8) : Option Nat :=
  if 48 ≤ byte && byte ≤ 57 then some (byte.toNat - 48)
  else if 65 ≤ byte && byte ≤ 70 then some (byte.toNat - 55)
  else if 97 ≤ byte && byte ≤ 102 then some (byte.toNat - 87)
  else none

/-- The byte that two hexadecimal digits stand for. -/
def hexByte? (high low : UInt8) : Option UInt8 :=
  match hexDigitValue? high, hexDigitValue? low with
  | some high, some low => some (UInt8.ofNat (16 * high + low))
  | _, _ => none

/-- The byte that a percent sign and two digits stand for. -/
def percentEscape? (sign high low : UInt8) : Option UInt8 :=
  if sign = percentByte then hexByte? high low else none

/-- The bytes that percent-encoded bytes stand for. -/
def percentDecode : List UInt8 → List UInt8
  | first :: second :: third :: rest =>
    match percentEscape? first second third with
    | some byte => byte :: percentDecode rest
    | none => first :: percentDecode (second :: third :: rest)
  | short => short

end MarkedRoutes.Text
