import MarkedRoutes.Http.Request
import MarkedRoutes.Serving.Reply

/-!
# Request bodies

The body of a request is a JSON text of a type.  An empty body counts as null,
so that a body of an optional type may be left out.
-/

namespace MarkedRoutes.Serving

open MarkedRoutes.Http

/-- A type of bodies: its name, how it is decoded, and its values as JSON. -/
structure BodyType (α : Type) where
  name : String
  decoder : Json.Decoder α
  json : α → Json

def bodyBytes (request : Request) : List UInt8 :=
  if request.body.isEmpty then Text.bytesOf "null" else request.body

def receive {α : Type} (type : BodyType α) (request : Request) : Except DispatchFault α :=
  match Json.decode type.decoder (bodyBytes request) with
  | .ok value => .ok value
  | .error reason => .error (.malformedBody type.name reason)

namespace BodyType

def value : BodyType Json := ⟨"serde_json::value::Value", Json.valueDecoder, id⟩

def text : BodyType String := ⟨Primitive.text.name, Json.stringDecoder, .string⟩

def boolean : BodyType Bool := ⟨Primitive.boolean.name, Json.booleanDecoder, .boolean⟩

def character : BodyType Char :=
  ⟨Primitive.character.name, Json.charDecoder, fun c => .string (String.ofList [c])⟩

def unit : BodyType Unit := ⟨"()", Json.unitDecoder, fun _ => .null⟩

def integer (type : IntegerType) : BodyType (Integer type) :=
  ⟨type.name, Json.integerDecoder type.name (Integer.ofInt? type),
    fun integer => .ofInt integer.value⟩

/-- A floating-point number of the wide format. -/
def floating : BodyType Decimal.Floating :=
  ⟨FloatingType.f64.name, Json.floatingDecoder, fun value => .number (.floating value)⟩

variable {α : Type}

def option (type : BodyType α) : BodyType (Option α) :=
  ⟨"core::option::Option<" ++ type.name ++ ">", Json.optionDecoder type.decoder,
    fun value => (value.map type.json).getD .null⟩

def list (type : BodyType α) : BodyType (List α) :=
  ⟨"alloc::vec::Vec<" ++ type.name ++ ">", Json.listDecoder type.decoder,
    fun values => .array (values.map type.json)⟩

/-- An object whose members have values of one type. -/
def map (type : BodyType α) : BodyType (List (String × α)) :=
  ⟨"alloc::collections::btree::map::BTreeMap<" ++ text.name ++ ", " ++ type.name ++ ">",
    Json.mapDecoder type.decoder,
    fun members => .object (members.map fun member => (member.1, type.json member.2))⟩

def reply (type : BodyType α) : BodyType (Reply α) :=
  ⟨"routecraft::runtime::response::Reply<" ++ type.name ++ ">", Reply.decoder type.decoder,
    Reply.json type.json⟩

end BodyType

end MarkedRoutes.Serving
