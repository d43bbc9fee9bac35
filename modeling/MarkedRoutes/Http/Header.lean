import MarkedRoutes.Http.Token
import MarkedRoutes.Text.Utf8

/-!
# Headers

A header has a token of bounded length for its name, in which case does not
count, and bytes for its value.  Control bytes other than the tab are refused.
A value is a text when all its bytes are visible ASCII, spaces or tabs.
-/

namespace MarkedRoutes.Http

/-- Whether a byte may stand in a header value. -/
def isValueByte (byte : UInt8) : Bool := (32 ≤ byte && byte != 127) || byte == 9

/-- Whether a byte is visible ASCII, a space or a tab. -/
def isVisibleByte (byte : UInt8) : Bool := (32 ≤ byte && byte < 127) || byte == 9

/-- The most bytes that the name of a header may have. -/
def maxHeaderNameBytes : Nat := 65535

def isHeaderName (text : String) : Bool := isToken text && text.utf8ByteSize ≤ maxHeaderNameBytes

/-- A header. -/
structure Header where
  name : String
  value : List UInt8
  deriving DecidableEq, Repr

namespace Header

/-- The header of a name and a value, when both are valid. -/
def ofParts? (name : String) (value : List UInt8) : Option Header :=
  if isHeaderName name && value.all isValueByte then some ⟨name, value⟩ else none

/-- Whether a header has a name, ignoring case. -/
def hasName (header : Header) (name : String) : Bool := Text.sameFolded header.name name

/-- The value of a header, when it is a text. -/
def text? (header : Header) : Option String :=
  if header.value.all isVisibleByte then
    some (String.ofList (header.value.map fun byte => Char.ofNat byte.toNat))
  else none

end Header

/-- The text of the first header of a name.  When that header is no text, a later one does
not take its place. -/
def headerText? (headers : List Header) (name : String) : Option String :=
  (headers.find? fun header => header.hasName name).bind Header.text?

end MarkedRoutes.Http
