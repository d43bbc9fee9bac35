import MarkedRoutes.Json.Fault
import MarkedRoutes.Text.Utf8

/-!
# Reading JSON texts

A cursor stands in the bytes of a text.  A reader takes a cursor and returns a
value with the cursor behind it, or a failure.  A failure keeps the cursor where
reading stopped, because the reader of an enclosing list or object goes on from
there to find its end before it places the fault.
-/

namespace MarkedRoutes.Json

/-- A place in the bytes of a text, and the bytes from there on. -/
structure Cursor where
  rest : List UInt8
  place : Place
  deriving Repr

/-- A failed reading: the fault and the cursor where reading stopped. -/
structure Failure where
  placed : PlacedFault
  cursor : Cursor
  deriving Repr

namespace Cursor

def start (bytes : List UInt8) : Cursor := ⟨bytes, ⟨1, 0⟩⟩

def placeAfter (place : Place) (byte : UInt8) : Place :=
  if byte == 10 then ⟨place.line + 1, 0⟩ else ⟨place.line, place.column + 1⟩

def peek? (cursor : Cursor) : Option UInt8 := cursor.rest.head?

/-- The cursor behind the next byte. -/
def advance (cursor : Cursor) : Cursor :=
  match cursor.rest with
  | [] => cursor
  | byte :: rest => ⟨rest, placeAfter cursor.place byte⟩

/-- The cursor behind a number of bytes. -/
def advanceBy (cursor : Cursor) : Nat → Cursor
  | 0 => cursor
  | count + 1 => cursor.advance.advanceBy count

def startsWith (cursor : Cursor) (c : Char) : Bool :=
  cursor.peek? == some (UInt8.ofNat c.toNat)

/-- The bytes that may stand between tokens. -/
def isBlankByte (byte : UInt8) : Bool := byte == 32 || byte == 10 || byte == 9 || byte == 13

/-- The cursor behind the blanks of some bytes. -/
def skipBlanksOf (place : Place) : List UInt8 → Cursor
  | [] => ⟨[], place⟩
  | byte :: rest =>
    if isBlankByte byte then skipBlanksOf (placeAfter place byte) rest else ⟨byte :: rest, place⟩

def skipBlanks (cursor : Cursor) : Cursor := skipBlanksOf cursor.place cursor.rest

def fail {α : Type} (cursor : Cursor) (fault : Fault) : Except Failure (α × Cursor) :=
  .error ⟨⟨fault, some cursor.place⟩, cursor⟩

/-- Fails at the next byte, which counts as seen. -/
def failNext {α : Type} (cursor : Cursor) (fault : Fault) : Except Failure (α × Cursor) :=
  .error ⟨⟨fault, some cursor.advance.place⟩, cursor⟩

def failUnplaced {α : Type} (cursor : Cursor) (fault : Fault) : Except Failure (α × Cursor) :=
  .error ⟨⟨fault, none⟩, cursor⟩

end Cursor

/-- Gives a fault without a place the place where reading stopped. -/
def placeFault {α : Type} (outcome : Except Failure (α × Cursor)) : Except Failure (α × Cursor) :=
  match outcome with
  | .error ⟨⟨fault, none⟩, cursor⟩ => cursor.fail fault
  | outcome => outcome

def byteChar (byte : UInt8) : Char := Char.ofNat byte.toNat

def isDigitByte (byte : UInt8) : Bool := 48 ≤ byte && byte ≤ 57

/-- Whether a cursor stands before a digit. -/
def Cursor.startsDigit (cursor : Cursor) : Bool := cursor.peek?.any isDigitByte

def readRest (word : List Char) (cursor : Cursor) : Except Failure (Unit × Cursor) :=
  match word with
  | [] => .ok ((), cursor)
  | c :: more =>
    match cursor.peek? with
    | none => cursor.fail .endInValue
    | some byte =>
      if byteChar byte = c then readRest more cursor.advance
      else cursor.advance.fail .expectedWord

end MarkedRoutes.Json
