import MarkedRoutes.Json.Decoding

/-!
# Decoding records

A record is written as an object with named members, in any order and with
others among them, or as the list of its fields.  A member that is named twice,
or whose field is missing, is a fault.  Members of no field are skipped without
looking at more than their form.
-/

namespace MarkedRoutes.Json

/-- Skips a name and its colon in an object. -/
def skipName (cursor : Cursor) : Except Failure (Unit × Cursor) :=
  let cursor := cursor.skipBlanks
  if cursor.rest.isEmpty then cursor.failNext .endInObject
  else if cursor.startsWith '"' then do
    let ((), cursor) ← skipStringRest cursor.advance
    readColon cursor
  else cursor.failNext .keyNotString

/-- Skips a value that is no list or object. -/
def skipScalar (cursor : Cursor) (c : Char) : Except Failure (Unit × Cursor) :=
  if c = 'n' then readRest "ull".toList cursor.advance
  else if c = 't' then readRest "rue".toList cursor.advance
  else if c = 'f' then readRest "alse".toList cursor.advance
  else if c = '-' then skipNumber cursor.advance
  else if c = '"' then skipStringRest cursor.advance
  else if cursor.startsDigit then skipNumber cursor
  else cursor.failNext .expectedValue

mutual

/-- Skips a value inside the open objects (`true`) and lists (`false`), innermost first, and
everything up to the end of the outermost. -/
def skipNested : Nat → List Bool → Cursor → Except Failure (Unit × Cursor)
  | 0, _, cursor => cursor.fail .endInValue
  | fuel + 1, frames, cursor =>
    beginValue cursor fun cursor c =>
      if c = '[' then skipAfter fuel (false :: frames) false cursor.advance
      else if c = '\x7b' then skipAfter fuel (true :: frames) false cursor.advance
      else do
        let ((), cursor) ← skipScalar cursor c
        skipAfter fuel frames true cursor

/-- Skips what follows a value, or the opening of the innermost list or object. -/
def skipAfter : Nat → List Bool → Bool → Cursor → Except Failure (Unit × Cursor)
  | 0, _, _, cursor => cursor.fail .endInValue
  | _ + 1, [], _, cursor => .ok ((), cursor)
  | fuel + 1, isObject :: frames, afterValue, cursor =>
    let cursor := cursor.skipBlanks
    let next (cursor : Cursor) : Except Failure (Unit × Cursor) := do
      if isObject then
        let ((), cursor) ← skipName cursor
        skipNested fuel (isObject :: frames) cursor
      else skipNested fuel (isObject :: frames) cursor
    if cursor.rest.isEmpty then
      cursor.failNext (if isObject then .endInObject else .endInList)
    else if afterValue && cursor.startsWith ',' then next cursor.advance
    else if cursor.startsWith (if isObject then '\x7d' else ']') then
      skipAfter fuel frames true cursor.advance
    else if afterValue then
      cursor.failNext (if isObject then .expectedObjectEnd else .expectedListEnd)
    else next cursor

end

def skipValue (cursor : Cursor) : Except Failure (Unit × Cursor) :=
  skipNested (2 * cursor.rest.length + 2) [] cursor

/-- A field of a record under construction: whether it is set, and how it is read. -/
structure Field (ρ : Type) where
  name : String
  isSet : ρ → Bool
  read : ρ → Decoder ρ

/-- How a record is decoded: its name, its fields, the record without any field, and the
finished record. -/
structure RecordShape (ρ α : Type) where
  name : String
  fields : List (Field ρ)
  start : ρ
  finish : ρ → Except Fault α

namespace RecordShape

def readMember {ρ α : Type} (shape : RecordShape ρ α) (level : Nat) (record : ρ)
    (name : String) (cursor : Cursor) : Except Failure (ρ × Cursor) :=
  match shape.fields.find? fun field => field.name = name with
  | none => do
    let ((), cursor) ← readColon cursor
    let ((), cursor) ← skipValue cursor
    .ok (record, cursor)
  | some field =>
    if field.isSet record then cursor.failUnplaced (.duplicateField name)
    else do
      let ((), cursor) ← readColon cursor
      field.read record level cursor

/-- Reads the members of an object up to its end.  The fuel is the number of bytes. -/
def readMembers {ρ α : Type} (shape : RecordShape ρ α) (level : Nat) :
    Nat → Bool → ρ → Cursor → Except Failure (ρ × Cursor)
  | 0, _, _, cursor => cursor.fail .endInObject
  | fuel + 1, isFirst, record, cursor => do
    let (more, cursor) ← nextMember isFirst cursor
    if more then do
      let (name, cursor) ← readStringRest cursor.advance
      let (record, cursor) ← shape.readMember level record name cursor
      readMembers shape level fuel false record cursor
    else .ok (record, cursor)

def readFields {ρ : Type} (level : Nat) (expected : String) :
    List (Field ρ) → Nat → ρ → Cursor → Except Failure (ρ × Cursor)
  | [], _, record, cursor => .ok (record, cursor)
  | field :: others, index, record, cursor => do
    let (more, cursor) ← nextElement (index == 0) cursor
    if more then do
      let (record, cursor) ← field.read record level cursor
      readFields level expected others (index + 1) record cursor
    else cursor.failUnplaced (.invalidLength index expected)

def finished {ρ α : Type} (shape : RecordShape ρ α)
    (read : Except Failure (ρ × Cursor)) : Except Failure (α × Cursor) := do
  let (record, cursor) ← read
  match shape.finish record with
  | .ok value => .ok (value, cursor)
  | .error fault => cursor.failUnplaced fault

/-- How a list of the wrong length is told what it should be. -/
def expectedElements {ρ α : Type} (shape : RecordShape ρ α) : String :=
  shape.name ++ " with " ++ toString shape.fields.length ++ " elements"

def decoder {ρ α : Type} (shape : RecordShape ρ α) : Decoder α := fun level cursor =>
  beginValue cursor fun cursor c =>
    if c = '[' then
      openLevel level cursor fun level cursor =>
        closeWith endList (shape.finished
          (readFields level shape.expectedElements shape.fields 0 shape.start cursor))
    else if c = '\x7b' then
      openLevel level cursor fun level cursor =>
        closeWith endObject (shape.finished
          (shape.readMembers level (cursor.rest.length + 1) true shape.start cursor))
    else wrongType cursor shape.name

end RecordShape

end MarkedRoutes.Json
