import MarkedRoutes.Json.Numbers
import MarkedRoutes.Json.Strings

/-!
# Decoding JSON texts

A decoder reads a value of one type from a text, without an intermediate tree,
so that the first fault in the text is the one reported.  It is told how many
lists and objects may still be opened, and it begins by skipping blanks.  The
faults of a list or object are placed where the search for its end stops.
-/

namespace MarkedRoutes.Json

/-- Reads a value of one type; the number says how many levels may still be opened. -/
abbrev Decoder (α : Type) := Nat → Cursor → Except Failure (α × Cursor)

/-- The levels that a text may open. -/
def maxLevels : Nat := 127

/-- Fails at a value of the wrong kind, which is read as far as it is named. -/
def wrongType {α : Type} (cursor : Cursor) (expected : String) :
    Except Failure (α × Cursor) :=
  let wrong (found : Found) (cursor : Cursor) : Except Failure (α × Cursor) :=
    cursor.fail (.invalidType found expected)
  match cursor.peek?.map byteChar with
  | some 'n' => do
    let ((), cursor) ← readRest "ull".toList cursor.advance
    wrong .null cursor
  | some 't' => do
    let ((), cursor) ← readRest "rue".toList cursor.advance
    wrong (.boolean true) cursor
  | some 'f' => do
    let ((), cursor) ← readRest "alse".toList cursor.advance
    wrong (.boolean false) cursor
  | some '-' => do
    let (value, cursor) ← readNumber false cursor.advance
    wrong (.number value) cursor
  | some '"' => do
    let (value, cursor) ← readStringRest cursor.advance
    wrong (.string value) cursor
  | some '[' => wrong .sequence cursor
  | some '\x7b' => wrong .map cursor
  | _ =>
    if cursor.startsDigit then do
      let (value, cursor) ← readNumber true cursor
      wrong (.number value) cursor
    else cursor.failNext .expectedValue

/-- Skips blanks and passes on the character that a value begins with. -/
def beginValue {α : Type} (cursor : Cursor)
    (read : Cursor → Char → Except Failure (α × Cursor)) : Except Failure (α × Cursor) :=
  let cursor := cursor.skipBlanks
  match cursor.peek? with
  | none => cursor.failNext .endInValue
  | some byte => read cursor (byteChar byte)

def unitDecoder : Decoder Unit := fun _ cursor =>
  beginValue cursor fun cursor c =>
    if c = 'n' then readRest "ull".toList cursor.advance else wrongType cursor "unit"

def booleanDecoder : Decoder Bool := fun _ cursor =>
  beginValue cursor fun cursor c =>
    if c = 't' then
      (readRest "rue".toList cursor.advance).map fun (_, cursor) => (true, cursor)
    else if c = 'f' then
      (readRest "alse".toList cursor.advance).map fun (_, cursor) => (false, cursor)
    else wrongType cursor "a boolean"

/-- Decodes a number; `expected` names the type. -/
def numberDecoder (expected : String) : Decoder JsonNumber := fun _ cursor =>
  beginValue cursor fun cursor c =>
    if c = '-' then readNumber false cursor.advance
    else if cursor.startsDigit then readNumber true cursor
    else wrongType cursor expected

/-- Decodes a whole number; `ofInt?` says which ones the type has. -/
def integerDecoder {α : Type} (expected : String) (ofInt? : Int → Option α) : Decoder α :=
  fun level cursor => do
    let (found, cursor) ← numberDecoder expected level cursor
    let accept (value : Int) : Except Failure (α × Cursor) :=
      match ofInt? value with
      | some integer => .ok (integer, cursor)
      | none => cursor.fail (.invalidValue (.number found) expected)
    match found with
    | .floating _ => cursor.fail (.invalidType (.number found) expected)
    | .natural value => accept value
    | .negative value => accept value

def toFloating : JsonNumber → Decimal.Floating
  | .natural value => Decimal.double.nearest false value 1
  | .negative value => Decimal.double.nearest true value.natAbs 1
  | .floating value => value

/-- Decodes a number as floating-point. -/
def floatingDecoder : Decoder Decimal.Floating := fun level cursor =>
  (numberDecoder "f64" level cursor).map fun (found, cursor) => (toFloating found, cursor)

/-- Decodes a string; `expected` names the type. -/
def textDecoder (expected : String) : Decoder String := fun _ cursor =>
  beginValue cursor fun cursor c =>
    if c = '"' then readStringRest cursor.advance else wrongType cursor expected

def stringDecoder : Decoder String := textDecoder "a string"

def charDecoder : Decoder Char := fun level cursor => do
  let (text, cursor) ← textDecoder "a character" level cursor
  match text.toList with
  | [c] => .ok (c, cursor)
  | _ => cursor.fail (.invalidValue (.string text) "a character")

def optionDecoder {α : Type} (decoder : Decoder α) : Decoder (Option α) := fun level cursor =>
  let cursor := cursor.skipBlanks
  if cursor.startsWith 'n' then
    (readRest "ull".toList cursor.advance).map fun (_, cursor) => (none, cursor)
  else (decoder level cursor).map fun (value, cursor) => (some value, cursor)

/-- The end of a list, behind its last element. -/
def endList (cursor : Cursor) : Except Failure (Unit × Cursor) :=
  let cursor := cursor.skipBlanks
  if cursor.rest.isEmpty then cursor.failNext .endInList
  else if cursor.startsWith ']' then .ok ((), cursor.advance)
  else if cursor.startsWith ',' then
    let cursor := cursor.advance.skipBlanks
    if cursor.startsWith ']' then cursor.failNext .trailingComma
    else cursor.failNext .trailingCharacters
  else cursor.failNext .trailingCharacters

/-- The end of an object, behind its last member. -/
def endObject (cursor : Cursor) : Except Failure (Unit × Cursor) :=
  let cursor := cursor.skipBlanks
  if cursor.rest.isEmpty then cursor.failNext .endInObject
  else if cursor.startsWith '\x7d' then .ok ((), cursor.advance)
  else if cursor.startsWith ',' then cursor.failNext .trailingComma
  else cursor.failNext .trailingCharacters

/-- The cursor where a reading stopped. -/
def stoppedAt {α : Type} (outcome : Except Failure (α × Cursor)) : Cursor :=
  match outcome with
  | .ok (_, cursor) => cursor
  | .error failure => failure.cursor

/-- Reads the end of a list or object after its content.  A fault of the content wins, and
is placed where the search for the end stops. -/
def closeWith {α : Type} (finish : Cursor → Except Failure (Unit × Cursor))
    (content : Except Failure (α × Cursor)) : Except Failure (α × Cursor) :=
  match content with
  | .ok (value, cursor) => (finish cursor).map fun (_, cursor) => (value, cursor)
  | .error failure => placeFault (.error ⟨failure.placed, stoppedAt (finish failure.cursor)⟩)

/-- Opens a list or object unless too many are open. -/
def openLevel {α : Type} (level : Nat) (cursor : Cursor)
    (read : Nat → Cursor → Except Failure (α × Cursor)) : Except Failure (α × Cursor) :=
  match level with
  | 0 => cursor.failNext .tooDeep
  | level + 1 => read level cursor.advance

/-- Whether another element follows, the cursor standing before it. -/
def nextElement (isFirst : Bool) (cursor : Cursor) : Except Failure (Bool × Cursor) :=
  let cursor := cursor.skipBlanks
  if cursor.rest.isEmpty then cursor.failNext .endInList
  else if cursor.startsWith ']' then .ok (false, cursor)
  else if isFirst then .ok (true, cursor)
  else if cursor.startsWith ',' then
    let cursor := cursor.advance.skipBlanks
    if cursor.rest.isEmpty then cursor.failNext .endInValue
    else if cursor.startsWith ']' then cursor.failNext .trailingComma
    else .ok (true, cursor)
  else cursor.failNext .expectedListEnd

/-- Whether another member follows, the cursor standing before its name. -/
def nextMember (isFirst : Bool) (cursor : Cursor) : Except Failure (Bool × Cursor) :=
  let cursor := cursor.skipBlanks
  if cursor.rest.isEmpty then cursor.failNext .endInObject
  else if cursor.startsWith '\x7d' then .ok (false, cursor)
  else if isFirst then
    if cursor.startsWith '"' then .ok (true, cursor) else cursor.failNext .keyNotString
  else if cursor.startsWith ',' then
    let cursor := cursor.advance.skipBlanks
    if cursor.rest.isEmpty then cursor.failNext .endInValue
    else if cursor.startsWith '"' then .ok (true, cursor)
    else if cursor.startsWith '\x7d' then cursor.failNext .trailingComma
    else cursor.failNext .keyNotString
  else cursor.failNext .expectedObjectEnd

/-- The colon between a name and its value. -/
def readColon (cursor : Cursor) : Except Failure (Unit × Cursor) :=
  let cursor := cursor.skipBlanks
  if cursor.rest.isEmpty then cursor.failNext .endInObject
  else if cursor.startsWith ':' then .ok ((), cursor.advance)
  else cursor.failNext .expectedColon

/-- The elements of a list up to its end.  The fuel is the number of bytes. -/
def readElements {α : Type} (read : Cursor → Except Failure (α × Cursor)) :
    Nat → Bool → Cursor → Except Failure (List α × Cursor)
  | 0, _, cursor => cursor.fail .endInList
  | fuel + 1, isFirst, cursor => do
    let (more, cursor) ← nextElement isFirst cursor
    if more then do
      let (element, cursor) ← read cursor
      let (others, cursor) ← readElements read fuel false cursor
      .ok (element :: others, cursor)
    else .ok ([], cursor)

/-- The members of an object up to its end.  The fuel is the number of bytes. -/
def readMembers {α : Type} (read : Cursor → Except Failure (α × Cursor)) :
    Nat → Bool → Cursor → Except Failure (List (String × α) × Cursor)
  | 0, _, cursor => cursor.fail .endInObject
  | fuel + 1, isFirst, cursor => do
    let (more, cursor) ← nextMember isFirst cursor
    if more then do
      let (name, cursor) ← readStringRest cursor.advance
      let ((), cursor) ← readColon cursor
      let (value, cursor) ← read cursor
      let (others, cursor) ← readMembers read fuel false cursor
      .ok ((name, value) :: others, cursor)
    else .ok ([], cursor)

/-- Reads a list behind its bracket. -/
def listContent {α : Type} (decoder : Decoder α) (level : Nat) (cursor : Cursor) :
    Except Failure (List α × Cursor) :=
  readElements (decoder level) (cursor.rest.length + 1) true cursor

/-- Reads an object behind its brace. -/
def objectContent {α : Type} (decoder : Decoder α) (level : Nat) (cursor : Cursor) :
    Except Failure (List (String × α) × Cursor) :=
  readMembers (decoder level) (cursor.rest.length + 1) true cursor

def listDecoder {α : Type} (decoder : Decoder α) : Decoder (List α) := fun level cursor =>
  beginValue cursor fun cursor c =>
    if c = '[' then
      openLevel level cursor fun level cursor =>
        closeWith endList (listContent decoder level cursor)
    else wrongType cursor "a sequence"

/-- Decodes an object whose members have values of one type, sorted by name. -/
def mapDecoder {α : Type} (decoder : Decoder α) : Decoder (List (String × α)) :=
  fun level cursor =>
    beginValue cursor fun cursor c =>
      if c = '\x7b' then
        openLevel level cursor fun level cursor =>
          (closeWith endObject (objectContent decoder level cursor)).map fun (members, cursor) =>
            (members.foldl (fun sorted member => setMember member.1 member.2 sorted) [], cursor)
      else wrongType cursor "a map"

/-- Reads any value.  `nested` reads the values inside a list or object, and is missing when
no more may be opened. -/
def readValue (nested : Option (Cursor → Except Failure (Json × Cursor))) (cursor : Cursor) :
    Except Failure (Json × Cursor) :=
  beginValue cursor fun cursor c =>
    if c = 'n' then
      (readRest "ull".toList cursor.advance).map fun (_, cursor) => (.null, cursor)
    else if c = 't' then
      (readRest "rue".toList cursor.advance).map fun (_, cursor) => (.boolean true, cursor)
    else if c = 'f' then
      (readRest "alse".toList cursor.advance).map fun (_, cursor) => (.boolean false, cursor)
    else if c = '-' then
      (readNumber false cursor.advance).map fun (value, cursor) => (.number value, cursor)
    else if c = '"' then
      (readStringRest cursor.advance).map fun (value, cursor) => (.string value, cursor)
    else if c = '[' then
      match nested with
      | none => cursor.failNext .tooDeep
      | some read =>
        (closeWith endList (readElements read cursor.rest.length true cursor.advance)).map
          fun (elements, cursor) => (.array elements, cursor)
    else if c = '\x7b' then
      match nested with
      | none => cursor.failNext .tooDeep
      | some read =>
        (closeWith endObject (readMembers read cursor.rest.length true cursor.advance)).map
          fun (members, cursor) => (ofMembers members, cursor)
    else if cursor.startsDigit then
      (readNumber true cursor).map fun (value, cursor) => (.number value, cursor)
    else cursor.failNext .expectedValue

def valueDecoder : Decoder Json
  | 0 => readValue none
  | level + 1 => readValue (some (valueDecoder level))

def decode {α : Type} (decoder : Decoder α) (bytes : List UInt8) : Except PlacedFault α :=
  match decoder maxLevels (.start bytes) with
  | .error failure => .error failure.placed
  | .ok (value, cursor) =>
    let cursor := cursor.skipBlanks
    if cursor.rest.isEmpty then .ok value
    else .error ⟨.trailingCharacters, some cursor.advance.place⟩

def ofText (text : String) : Except PlacedFault Json := decode valueDecoder (Text.bytesOf text)

end MarkedRoutes.Json
