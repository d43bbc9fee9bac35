import MarkedRoutes.Http.Header
import MarkedRoutes.Json.Decoding

/-!
# Request ids

A request id is a number of 128 bits.  It is written as twenty-six digits in
base 32, most significant first, with an alphabet that leaves out the letters I,
L, O and U.  Reading ignores case; of the 130 bits that are read the two highest
are dropped.
-/

namespace MarkedRoutes.Http

/-- The identifier of a request. -/
structure RequestId where
  value : Fin (Nat.pow 2 128)
  deriving DecidableEq, Repr

/-- Why a text is no request id. -/
inductive RequestIdFault where
  | invalidLength
  | invalidCharacter
  deriving DecidableEq, Repr

def RequestIdFault.message : RequestIdFault → String
  | invalidLength => "invalid length"
  | invalidCharacter => "invalid character"

namespace RequestId

/-- The digits of base 32. -/
def alphabet : List Char := "0123456789ABCDEFGHJKMNPQRSTVWXYZ".toList

def digitCount : Nat := 26

/-- The value of a digit of either case. -/
def digitOf? (c : Char) : Option Nat := alphabet.idxOf? c.toUpper

def digit (value : Nat) : Char := alphabet.getD value '0'

def numberOf (digits : List Nat) : Nat := digits.foldl (fun total digit => total * 32 + digit) 0

def ofNat (number : Nat) : RequestId :=
  ⟨⟨number % Nat.pow 2 128, Nat.mod_lt number (by decide)⟩⟩

def ofText (text : String) : Except RequestIdFault RequestId :=
  if text.utf8ByteSize ≠ digitCount then .error .invalidLength
  else
    match text.toList.mapM digitOf? with
    | none => .error .invalidCharacter
    | some digits => .ok (ofNat (numberOf digits))

/-- The last digits of a number, most significant first. -/
def lastDigits : Nat → Nat → List Nat
  | 0, _ => []
  | count + 1, number => lastDigits count (number / 32) ++ [number % 32]

def text (id : RequestId) : String :=
  String.ofList ((lastDigits digitCount id.value.val).map digit)

/-- The id of the least number that no taken id has. -/
def fresh (taken : List RequestId) : RequestId :=
  (((List.range (taken.length + 1)).map ofNat).find? fun id => !taken.contains id).getD (ofNat 0)

/-- The header in which a caller supplies an id, and in which it is sent back. -/
def headerName : String := "x-request-id"

def ofHeaders? (headers : List Header) : Option RequestId :=
  (headerText? headers headerName).bind fun supplied => (ofText supplied).toOption

def decoder : Json.Decoder RequestId := fun level cursor => do
  let (written, cursor) ← Json.stringDecoder level cursor
  match ofText written with
  | .ok id => .ok (id, cursor)
  | .error _ => cursor.failUnplaced (.custom "invalid request id")

def json (id : RequestId) : Json := .string id.text

end RequestId

end MarkedRoutes.Http
