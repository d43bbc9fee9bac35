/-!
# UTF-8

The bytes of a text and the text of bytes.  Bytes that encode no text are either
refused or shown: each longest part that could have begun a character becomes one
replacement character.
-/

namespace MarkedRoutes.Text

def utf8 (text : List Char) : List UInt8 := text.flatMap String.utf8EncodeChar

def bytesOf (text : String) : List UInt8 := utf8 text.toList

/-- The payload of a byte that continues a character. -/
def continuation? (byte : UInt8) : Option Nat :=
  if 0x80 ≤ byte && byte ≤ 0xBF then some (byte.toNat - 0x80) else none

/-- What bytes begin with: a character, or a number of bytes that begin none. -/
inductive Utf8Head where
  | char (c : Char) (rest : List UInt8)
  | broken (length : Nat)
  deriving Repr

/-- How many bytes continue a character after its first byte, the payload of that byte, and
the range of the second byte. -/
def leadByte? (byte : UInt8) : Option (Nat × Nat × UInt8 × UInt8) :=
  if 0xC2 ≤ byte && byte ≤ 0xDF then some (1, byte.toNat - 0xC0, 0x80, 0xBF)
  else if byte == 0xE0 then some (2, 0, 0xA0, 0xBF)
  else if byte == 0xED then some (2, 0xD, 0x80, 0x9F)
  else if 0xE1 ≤ byte && byte ≤ 0xEF then some (2, byte.toNat - 0xE0, 0x80, 0xBF)
  else if byte == 0xF0 then some (3, 0, 0x90, 0xBF)
  else if byte == 0xF4 then some (3, 4, 0x80, 0x8F)
  else if 0xF1 ≤ byte && byte ≤ 0xF3 then some (3, byte.toNat - 0xF0, 0x80, 0xBF)
  else none

/-- Reads the continuation bytes of a character; `length` counts the bytes read. -/
def readContinuations (length point : Nat) : Nat → List UInt8 → Utf8Head
  | 0, rest => .char (Char.ofNat point) rest
  | count + 1, byte :: rest =>
    match continuation? byte with
    | some payload => readContinuations (length + 1) (point * 64 + payload) count rest
    | none => .broken length
  | _ + 1, [] => .broken length

/-- What non-empty bytes begin with. -/
def utf8Head (byte : UInt8) (rest : List UInt8) : Utf8Head :=
  if byte < 0x80 then .char (Char.ofNat byte.toNat) rest
  else
    match leadByte? byte, rest with
    | some (count, payload, low, high), second :: _ =>
      if low ≤ second && second ≤ high then readContinuations 1 payload count rest
      else .broken 1
    | _, _ => .broken 1

/-- The characters of bytes, the broken parts being none.  The fuel is the number of
bytes. -/
def utf8Parts : Nat → List UInt8 → List (Option Char)
  | 0, _ => []
  | _ + 1, [] => []
  | fuel + 1, byte :: rest =>
    match utf8Head byte rest with
    | .char c after => some c :: utf8Parts fuel after
    | .broken length => none :: utf8Parts fuel ((byte :: rest).drop length)

/-- The text that bytes encode, if they do. -/
def ofUtf8? (bytes : List UInt8) : Option String :=
  ((utf8Parts bytes.length bytes).mapM id).map String.ofList

/-- The text of bytes, with a replacement character for each broken part. -/
def ofUtf8Lossy (bytes : List UInt8) : String :=
  String.ofList ((utf8Parts bytes.length bytes).map fun part => part.getD '\ufffd')

end MarkedRoutes.Text
