import MarkedRoutes.Proofs.Json.RoundTrip
import MarkedRoutes.Proofs.Json.StringLengths
import MarkedRoutes.Serving.Response

/-!
# Reading responses back

A client takes the value of a response from its content type and the text of its body.  This
gives back every value when the content type was picked for the value.  A response that is
labelled as JSON whatever its value is cannot be read back when the value is null or a string,
since the text is then no JSON of the value.
-/

namespace MarkedRoutes.Serving

open MarkedRoutes.Http

/-- The media type of a content type, without its parameters. -/
def mediaType (type : String) : String := String.ofList (type.toList.takeWhile (· != ';'))

/-- The value that a content type and a text stand for. -/
def readBody? : Option String → String → Option Json
  | none, text => if text.isEmpty then some .null else none
  | some type, text =>
    if mediaType type = "text/plain" then some (.string text)
    else if mediaType type = "application/json" then (Json.ofText text).toOption
    else none

/-- Whether a value is null or a string, so that its text in a response is no JSON. -/
def isPlain : Json → Bool
  | .null => true
  | .string _ => true
  | _ => false

namespace Response

/-- The value that a client reads from a response. -/
def readBack? (response : Response) : Option Json :=
  readBody? (response.header? contentType) response.bodyText

/-- The response with headers that are set one after another. -/
def withHeaders (response : Response) (headers : List (String × String)) : Response :=
  headers.foldl (fun response header => response.withHeader header.1 header.2) response

/-! ### Setting other headers -/

theorem bodyText_withHeader (response : Response) (name value : String) :
    (response.withHeader name value).bodyText = response.bodyText := rfl

/-- Setting a header leaves the headers of other names as they were. -/
theorem header?_withHeader_of_ne (response : Response) {name other : String} (value : String)
    (hother : Text.sameFolded name other = false) :
    (response.withHeader name value).header? other = response.header? other := by
  have hkept : ∀ header : String × String, Text.sameFolded header.1 other = true →
      (!Text.sameFolded header.1 name) = true := by
    intro header hheader
    cases hname : Text.sameFolded header.1 name with
    | false => rfl
    | true =>
        have hsame : Text.sameFolded name other = true := by
          rw [Text.sameFolded_iff] at hheader hname ⊢
          exact hname.symm.trans hheader
        rw [hsame] at hother
        cases hother
  rw [header?, header?, withHeader, List.find?_append, List.find?_filter,
    List.find?_cons_of_neg (by simp [hother]), List.find?_nil, Option.or_none]
  congr 2
  funext header
  cases hheader : Text.sameFolded header.1 other with
  | false => simp
  | true => simp [hkept header hheader]

/-- Setting headers of other names does not change what a client reads. -/
theorem readBack?_withHeaders (response : Response) {headers : List (String × String)}
    (hother : ∀ header ∈ headers, Text.sameFolded header.1 contentType = false) :
    (response.withHeaders headers).readBack? = response.readBack? := by
  induction headers generalizing response with
  | nil => rfl
  | cons header headers ih =>
      have hfirst := header?_withHeader_of_ne response header.2 (hother header List.mem_cons_self)
      calc (response.withHeaders (header :: headers)).readBack?
          = (response.withHeader header.1 header.2).readBack? :=
            ih _ fun other hmem => hother other (List.mem_cons_of_mem header hmem)
        _ = response.readBack? := by rw [readBack?, hfirst, bodyText_withHeader, readBack?]

/-! ### What the constructors make of a value -/

theorem readBack?_empty (status : Status) : (empty status).readBack? = some .null := rfl

theorem readBack?_text (status : Status) (body : String) :
    (text status body).readBack? = some (.string body) := rfl

theorem readBack?_json (status : Status) (body : Json) :
    (json status body).readBack? = (Json.ofText (json status body).bodyText).toOption := rfl

/-- A value that is not plain is sent as its JSON text. -/
theorem bodyText_json {body : Json} (hbody : isPlain body = false) (status : Status) :
    (json status body).bodyText = body.text := by
  cases body with
  | null => cases hbody
  | string text => cases hbody
  | _ => rfl

theorem ofValue_eq_json {body : Json} (hbody : isPlain body = false) (status : Status) :
    ofValue status body = json status body := by
  cases body with
  | null => cases hbody
  | string text => cases hbody
  | _ => rfl

/-- A plain value that is labelled as JSON is not read back. -/
theorem readBack?_json_of_isPlain {body : Json} (hbody : isPlain body = true) (status : Status) :
    (json status body).readBack? ≠ some body := by
  have hread : ∀ value, (json status body).readBack? = some value →
      Json.ofText (json status body).bodyText = .ok value := by
    intro value hvalue
    rw [readBack?_json] at hvalue
    cases htext : Json.ofText (json status body).bodyText with
    | error fault => simp [htext, Except.toOption] at hvalue
    | ok found => simpa [htext, Except.toOption] using hvalue
  intro hback
  cases body with
  | null => exact Json.ofText_empty_ne _ (hread _ hback)
  | string text => exact Json.ofText_ne_string text (hread _ hback)
  | _ => cases hbody

/-- A value that its JSON text stands for is read back from the response made for it.  From a
response that is labelled as JSON it is read back just when it is neither null nor a string.
Headers of other names make no difference. -/
theorem readBack_ofValue_json {body : Json} (htext : Json.ofText body.text = .ok body)
    {headers : List (String × String)}
    (hother : ∀ header ∈ headers, Text.sameFolded header.1 contentType = false)
    (status : Status) :
    ((ofValue status body).withHeaders headers).readBack? = some body ∧
      (((json status body).withHeaders headers).readBack? = some body ↔ isPlain body = false) := by
  rw [readBack?_withHeaders _ hother, readBack?_withHeaders _ hother]
  cases hbody : isPlain body with
  | false =>
      have hjson : (json status body).readBack? = some body := by
        rw [readBack?_json, bodyText_json hbody, htext]
        rfl
      rw [ofValue_eq_json hbody]
      exact ⟨hjson, iff_of_true hjson rfl⟩
  | true =>
      have hvalue : (ofValue status body).readBack? = some body := by
        cases body with
        | null => exact readBack?_empty status
        | string text => exact readBack?_text status text
        | _ => cases hbody
      exact ⟨hvalue, iff_of_false (readBack?_json_of_isPlain hbody status) (by simp)⟩

def goneBody : Json :=
  .object [("error", .string "gone"), ("left", .array [.number (.natural 7), .null])]

theorem isExact_goneBody : Json.IsExact Json.maxLevels goneBody :=
  .object (by decide) (List.forall_mem_cons.mpr ⟨.string _ _, List.forall_mem_singleton.mpr
    (.array (List.forall_mem_cons.mpr
      ⟨.natural _ (by decide), List.forall_mem_singleton.mpr (.null _)⟩))⟩)

theorem readBack_ofValue_json_gone :
    ((ofValue .ok goneBody).withHeaders [("X-Left", "7"), ("etag", "1")]).readBack? =
        some goneBody ∧
      (((json .ok goneBody).withHeaders [("X-Left", "7"), ("etag", "1")]).readBack? =
        some goneBody ↔ isPlain goneBody = false) :=
  readBack_ofValue_json (Json.ofText_text isExact_goneBody) (by decide) .ok

/-- The text of a string that is labelled as JSON is no JSON. -/
theorem json_not_readBack :
    Json.ofText (Json.string "x").text = .ok (.string "x") ∧
      (json .ok (.string "x")).header? "content-type" = some "application/json" ∧
      Json.ofText (json .ok (.string "x")).bodyText ≠ .ok (.string "x") :=
  ⟨Json.ofText_text (.string _ "x"), by decide, Json.ofText_ne_string "x"⟩

end Response

end MarkedRoutes.Serving
