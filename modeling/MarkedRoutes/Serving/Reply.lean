import MarkedRoutes.Json.Records
import MarkedRoutes.Serving.Primitive
import MarkedRoutes.Serving.Response

/-!
# Answers of handlers

A handler returns nothing, a value, or a reply: a status with an optional value.
The value is serialized before it is answered, and serializing fails for a map
whose keys are no texts.
-/

namespace MarkedRoutes.Serving

open MarkedRoutes.Http

/-- A value after serialization. -/
abbrev Serialized := Except Json.Fault Json

/-- The text of a value that can be the key of an object. -/
def keyText? : Json → Option String
  | .string text => some text
  | .boolean value => some (if value then "true" else "false")
  | .number value => some (String.ofList (Json.numberText value))
  | _ => none

/-- The object of a map whose keys are values. -/
def serializeMap (entries : List (Json × Json)) : Serialized :=
  match entries.mapM fun entry => (keyText? entry.1).map fun key => (key, entry.2) with
  | some members => .ok (Json.ofMembers members)
  | none => .error .keyNotString

/-- The answer of a handler that returns nothing. -/
def respondEmpty : Response := .empty .ok

/-- The answer of a handler that returns a value. -/
def respond (value : Serialized) : Except DispatchFault Response :=
  match value with
  | .ok body => .ok (.ofValue .ok body.sorted)
  | .error reason => .error (.unserializable reason)

/-- A status with an optional value. -/
structure Reply (α : Type) where
  status : Status
  data : Option α
  deriving DecidableEq, Repr

namespace Reply

def ok {α : Type} (data : α) : Reply α := ⟨.ok, some data⟩

def ofStatus {α : Type} (status : Status) : Reply α := ⟨status, none⟩

def hasData {α : Type} (reply : Reply α) : Bool := reply.data.isSome

def json {α : Type} (encode : α → Json) (reply : Reply α) : Json :=
  .object [("status", .ofNat reply.status.code), ("data", (reply.data.map encode).getD .null)]

def statusDecoder : Json.Decoder Status := fun level cursor => do
  let (code, cursor) ← Json.integerDecoder "u16" (Integer.ofInt? .u16) level cursor
  match Status.ofNat? code.value.toNat with
  | some status => .ok (status, cursor)
  | none => cursor.failUnplaced (.custom "invalid status code")

/-- The fields of a reply as they are read. -/
structure Fields (α : Type) where
  status : Option Status
  data : Option (Option α)

def shape {α : Type} (decoder : Json.Decoder α) : Json.RecordShape (Fields α) (Reply α) where
  name := "struct Reply"
  fields :=
    [⟨"status", fun fields => fields.status.isSome, fun fields level cursor => do
        let (status, cursor) ← statusDecoder level cursor
        .ok ({ fields with status := some status }, cursor)⟩,
      ⟨"data", fun fields => fields.data.isSome, fun fields level cursor => do
        let (data, cursor) ← Json.optionDecoder decoder level cursor
        .ok ({ fields with data := some data }, cursor)⟩]
  start := ⟨none, none⟩
  finish fields :=
    match fields.status with
    | some status => .ok ⟨status, fields.data.getD none⟩
    | none => .error (.missingField "status")

def decoder {α : Type} (data : Json.Decoder α) : Json.Decoder (Reply α) := (shape data).decoder

end Reply

/-- The answer of a handler that returns a reply. -/
def respondReply (reply : Reply Serialized) : Except DispatchFault Response :=
  match reply.data with
  | none => .ok (.empty reply.status)
  | some (.ok body) => .ok (.ofValue reply.status body.sorted)
  | some (.error reason) => .error (.unserializable reason)

end MarkedRoutes.Serving
