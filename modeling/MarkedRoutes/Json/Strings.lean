import MarkedRoutes.Json.Cursor

/-!
# Strings in JSON texts

The rest of a string behind its opening quote.  A code point above the basic
plane is escaped as a pair of surrogates; a surrogate without its partner is a
fault.  A string whose value is not needed is skipped, and its escapes are only
checked for their form.
-/

namespace MarkedRoutes.Json

def hexValue? (byte : UInt8) : Option Nat :=
  if 48 ≤ byte && byte ≤ 57 then some (byte.toNat - 48)
  else if 65 ≤ byte && byte ≤ 70 then some (byte.toNat - 55)
  else if 97 ≤ byte && byte ≤ 102 then some (byte.toNat - 87)
  else none

/-- The number of four hexadecimal digits. -/
def readHex (cursor : Cursor) : Except Failure (Nat × Cursor) :=
  match cursor.rest with
  | a :: b :: c :: d :: _ =>
    match hexValue? a, hexValue? b, hexValue? c, hexValue? d with
    | some a, some b, some c, some d =>
      .ok (((a * 16 + b) * 16 + c) * 16 + d, cursor.advanceBy 4)
    | _, _, _, _ => (cursor.advanceBy 4).fail .invalidEscape
  | short => (cursor.advanceBy short.length).fail .endInString

/-- Reads a byte that must follow a leading surrogate. -/
def readPairMark (mark : Char) (cursor : Cursor) : Except Failure (Unit × Cursor) :=
  match cursor.peek? with
  | none => cursor.fail .endInString
  | some byte =>
    if byteChar byte = mark then .ok ((), cursor.advance)
    else cursor.advance.fail .unfinishedEscape

/-- The code point of an escape behind `\u`. -/
def readCodePoint (cursor : Cursor) : Except Failure (Char × Cursor) := do
  let (first, cursor) ← readHex cursor
  if 0xDC00 ≤ first && first ≤ 0xDFFF then cursor.fail .loneSurrogate
  else if first < 0xD800 || 0xDBFF < first then .ok (Char.ofNat first, cursor)
  else do
    let ((), cursor) ← readPairMark '\\' cursor
    let ((), cursor) ← readPairMark 'u' cursor
    let (second, cursor) ← readHex cursor
    if second < 0xDC00 || 0xDFFF < second then cursor.fail .loneSurrogate
    else .ok (Char.ofNat (0x10000 + (first - 0xD800) * 1024 + (second - 0xDC00)), cursor)

def shortEscape? (c : Char) : Option Char :=
  if c == '"' || c == '\\' || c == '/' then some c
  else if c == 'b' then some '\x08'
  else if c == 'f' then some '\x0c'
  else if c == 'n' then some '\n'
  else if c == 'r' then some '\r'
  else if c == 't' then some '\t'
  else none

/-- The character of an escape behind its backslash. -/
def readEscape (cursor : Cursor) : Except Failure (Char × Cursor) :=
  match cursor.peek? with
  | none => cursor.fail .endInString
  | some byte =>
    if byteChar byte = 'u' then readCodePoint cursor.advance
    else
      match shortEscape? (byteChar byte) with
      | some c => .ok (c, cursor.advance)
      | none => cursor.advance.fail .invalidEscape

/-- The bytes of a string up to its closing quote.  The fuel is the number of bytes. -/
def readStringBytes : Nat → Cursor → Except Failure (List UInt8 × Cursor)
  | 0, cursor => cursor.fail .endInString
  | fuel + 1, cursor =>
    match cursor.peek? with
    | none => cursor.fail .endInString
    | some byte =>
      if byteChar byte = '"' then .ok ([], cursor.advance)
      else if byteChar byte = '\\' then do
        let (c, cursor) ← readEscape cursor.advance
        let (others, cursor) ← readStringBytes fuel cursor
        .ok (String.utf8EncodeChar c ++ others, cursor)
      else if byte < 32 then cursor.advance.fail .controlCharacter
      else do
        let (others, cursor) ← readStringBytes fuel cursor.advance
        .ok (byte :: others, cursor)

def readStringRest (cursor : Cursor) : Except Failure (String × Cursor) := do
  let (bytes, cursor) ← readStringBytes (cursor.rest.length + 1) cursor
  match Text.ofUtf8? bytes with
  | some text => .ok (text, cursor)
  | none => cursor.fail .invalidCodePoint

/-- Skips an escape behind its backslash. -/
def skipEscape (cursor : Cursor) : Except Failure (Unit × Cursor) :=
  match cursor.peek? with
  | none => cursor.fail .endInString
  | some byte =>
    if byteChar byte = 'u' then (readHex cursor.advance).map fun (_, cursor) => ((), cursor)
    else if (shortEscape? (byteChar byte)).isSome then .ok ((), cursor.advance)
    else cursor.advance.fail .invalidEscape

/-- Skips the rest of a string.  The fuel is the number of bytes. -/
def skipStringBytes : Nat → Cursor → Except Failure (Unit × Cursor)
  | 0, cursor => cursor.fail .endInString
  | fuel + 1, cursor =>
    match cursor.peek? with
    | none => cursor.fail .endInString
    | some byte =>
      if byteChar byte = '"' then .ok ((), cursor.advance)
      else if byteChar byte = '\\' then do
        let ((), cursor) ← skipEscape cursor.advance
        skipStringBytes fuel cursor
      else if byte < 32 then cursor.fail .controlCharacter
      else skipStringBytes fuel cursor.advance

def skipStringRest (cursor : Cursor) : Except Failure (Unit × Cursor) :=
  skipStringBytes (cursor.rest.length + 1) cursor

end MarkedRoutes.Json
