import MarkedRoutes.Http.Request
import Mathlib.Data.List.Basic

/-!
# Looking up headers

A request keeps the valid headers that it was given, in their order.  Looking up a name takes
the first value under it, whatever the case of the name, and gives nothing when this value is
no text.  So the first text under the name is found just when no other value stands before it.
-/

namespace MarkedRoutes.Http

/-! ### Requests and the headers that they were given -/

/-- A request was built from headers that were given in this order, each by a name and the bytes
of a value. -/
inductive Request.IsGiven : List (String × List UInt8) → Request → Prop
  | target (id : RequestId) (method : RequestMethod) (target : String) :
      IsGiven [] (.ofTarget id method target)
  | message {method target : String} {given : List (String × List UInt8)} {body : List UInt8}
      {message : Message} (hmessage : Message.ofParts? method target given body = some message)
      (minted : RequestId) : IsGiven given (.ofMessage minted message)
  | withHeader {given : List (String × List UInt8)} {request : Request}
      (hgiven : request.IsGiven given) (name value : String) :
      IsGiven (given ++ [(name, Text.bytesOf value)]) (request.withHeader name value)
  | withBody {given : List (String × List UInt8)} {request : Request}
      (hgiven : request.IsGiven given) (body : List UInt8) : IsGiven given (request.withBody body)
  | withPathParameters {given : List (String × List UInt8)} {request : Request}
      (hgiven : request.IsGiven given) (pathParameters : List (String × String)) :
      IsGiven given (request.withPathParameters pathParameters)

def validHeaders (given : List (String × List UInt8)) : List Header :=
  given.filterMap fun header => Header.ofParts? header.1 header.2

@[simp]
theorem validHeaders_append (given more : List (String × List UInt8)) :
    validHeaders (given ++ more) = validHeaders given ++ validHeaders more :=
  List.filterMap_append

theorem validHeaders_cons {first : String × List UInt8} {header : Header}
    (hfirst : Header.ofParts? first.1 first.2 = some header)
    (given : List (String × List UInt8)) :
    validHeaders (first :: given) = header :: validHeaders given := by
  simp [validHeaders, hfirst]

/-- The headers of a message are those that it was given, all of them valid. -/
theorem Message.headers_ofParts? {method target : String} {given : List (String × List UInt8)}
    {body : List UInt8} {message : Message}
    (hmessage : Message.ofParts? method target given body = some message) :
    message.headers = validHeaders given := by
  simp only [ofParts?, Option.bind_eq_bind, Option.bind_eq_some_iff, Option.some_inj] at hmessage
  obtain ⟨_, -, _, -, headers, hheaders, rfl⟩ := hmessage
  change headers = validHeaders given
  induction given generalizing headers with
  | nil => simpa [validHeaders] using hheaders.symm
  | cons first given ih =>
      simp only [List.mapM_cons, Option.bind_eq_bind, Option.bind_eq_some_iff] at hheaders
      obtain ⟨header, hfirst, rest, hrest, hcons⟩ := hheaders
      cases hcons
      rw [validHeaders_cons hfirst, ih rest hrest]

theorem Request.headers_withHeader (request : Request) (name value : String) :
    (request.withHeader name value).headers =
      request.headers ++ validHeaders [(name, Text.bytesOf value)] := by
  rw [withHeader]
  cases hheader : Header.ofParts? name (Text.bytesOf value) with
  | none => simp [validHeaders, hheader]
  | some header => simp [validHeaders, hheader]

/-- A request keeps the valid headers in the order in which they were given. -/
theorem Request.IsGiven.headers_eq {request : Request} {given : List (String × List UInt8)}
    (hgiven : request.IsGiven given) : request.headers = validHeaders given := by
  induction hgiven with
  | target id method target => rfl
  | message hmessage minted => exact Message.headers_ofParts? hmessage
  | withHeader hgiven name value ih =>
      rw [Request.headers_withHeader, ih, validHeaders_append]
  | withBody hgiven body ih => exact ih
  | withPathParameters hgiven pathParameters ih => exact ih

/-! ### Values under a name -/

/-- The values of the valid headers under a name, in any case, in the order in which they were
given. -/
def valuesUnder (name : String) (given : List (String × List UInt8)) : List (List UInt8) :=
  (given.filter fun header =>
    (Header.ofParts? header.1 header.2).isSome && Text.sameFolded header.1 name).map Prod.snd

/-- Whether all bytes of a value are visible ASCII, spaces or tabs. -/
def isTextValue (value : List UInt8) : Bool := value.all isVisibleByte

/-- The characters of the bytes of a value. -/
def valueText (value : List UInt8) : String :=
  String.ofList (value.map fun byte => Char.ofNat byte.toNat)

theorem Header.eq_of_ofParts? {name : String} {value : List UInt8} {header : Header}
    (hheader : Header.ofParts? name value = some header) : header = ⟨name, value⟩ := by
  rw [ofParts?, Option.ite_none_right_eq_some] at hheader
  exact (Option.some_inj.mp hheader.2).symm

theorem Header.text?_eq (header : Header) :
    header.text? = if isTextValue header.value then some (valueText header.value) else none := rfl

/-- The values of the valid headers of a name are the values under it. -/
theorem map_value_filter_validHeaders (name : String) (given : List (String × List UInt8)) :
    ((validHeaders given).filter fun header => header.hasName name).map Header.value =
      valuesUnder name given := by
  induction given with
  | nil => rfl
  | cons first given ih =>
      cases hfirst : Header.ofParts? first.1 first.2 with
      | none => simpa [validHeaders, valuesUnder, hfirst] using ih
      | some header =>
          have hname : header.hasName name = Text.sameFolded first.1 name := by
            rw [Header.eq_of_ofParts? hfirst, Header.hasName]
          have hvalue : header.value = first.2 := by rw [Header.eq_of_ofParts? hfirst]
          rw [validHeaders_cons hfirst, List.filter_cons, hname]
          cases hsame : Text.sameFolded first.1 name with
          | false => simpa [valuesUnder, hfirst, hsame] using ih
          | true => simpa [valuesUnder, hfirst, hsame, hvalue] using ih

/-- Looking up a name reads the first value under it. -/
theorem Request.IsGiven.header?_eq {request : Request} {given : List (String × List UInt8)}
    (hgiven : request.IsGiven given) (name : String) :
    request.header? name =
      ((valuesUnder name given).head?.filter isTextValue).map valueText := by
  rw [header?, headerText?, hgiven.headers_eq, ← map_value_filter_validHeaders, List.head?_map,
    List.head?_filter]
  cases (validHeaders given).find? fun header => header.hasName name with
  | none => rfl
  | some header =>
      rw [Option.bind_some, Option.map_some, Option.filter_some, Header.text?_eq]
      cases isTextValue header.value <;> rfl

/-! ### The first text -/

/-- The text of the first value under a name that is a text. -/
def firstText? (name : String) (given : List (String × List UInt8)) : Option String :=
  ((valuesUnder name given).find? isTextValue).map valueText

/-- The first text under a name, when there is one, is the first of all values under it. -/
def TextComesFirst (name : String) (given : List (String × List UInt8)) : Prop :=
  ∀ value, (valuesUnder name given).find? isTextValue = some value →
    (valuesUnder name given).head? = some value

instance (name : String) (given : List (String × List UInt8)) :
    Decidable (TextComesFirst name given) :=
  decidable_of_iff
    (((valuesUnder name given).find? isTextValue).all fun value =>
      (valuesUnder name given).head? = some value) (by
    rw [TextComesFirst]
    cases (valuesUnder name given).find? isTextValue <;> simp)

/-- Keeping the first item of a list that fits, or the first item if it fits, is the same just
when no item that fits stands behind one that does not. -/
theorem head?_filter_cases {α : Type} (values : List α) (fits : α → Bool) :
    (∀ value, values.find? fits = some value → values.head? = some value) ∧
        values.head?.filter fits = values.find? fits ∨
      (∃ value, values.find? fits = some value ∧ values.head? ≠ some value) ∧
        values.head?.filter fits = none := by
  cases values with
  | nil => simp
  | cons first rest =>
      cases hfirst : fits first with
      | true => simp [hfirst]
      | false =>
          cases hrest : rest.find? fits with
          | none => simp [hfirst, hrest]
          | some value =>
              have hne : first ≠ value := by
                intro heq
                rw [heq, List.find?_some hrest] at hfirst
                cases hfirst
              simp [hfirst, hrest, hne]

/-- A request gives the first text under a name just when this is the first of all values under
it, or there is no text at all.  Otherwise it gives nothing. -/
theorem header_eq_firstText_iff {request : Request} {given : List (String × List UInt8)}
    (hgiven : request.IsGiven given) (name : String) :
    (request.header? name = firstText? name given ↔ TextComesFirst name given) ∧
      (¬ TextComesFirst name given → request.header? name = none) := by
  have hheader := hgiven.header?_eq name
  rcases head?_filter_cases (valuesUnder name given) isTextValue with
    ⟨hfirst, hsame⟩ | ⟨⟨value, hfind, hhead⟩, hnone⟩
  · have hanswer : request.header? name = firstText? name given := by
      rw [hheader, hsame, firstText?]
    exact ⟨iff_of_true hanswer hfirst, fun hlater => absurd hfirst hlater⟩
  · have hlater : ¬ TextComesFirst name given := fun hfirst => hhead (hfirst value hfind)
    have hanswer : request.header? name = none := by simp [hheader, hnone]
    have hother : firstText? name given = some (valueText value) := by simp [firstText?, hfind]
    refine ⟨iff_of_false ?_ hlater, fun _ => hanswer⟩
    simp [hanswer, hother]

theorem isToken_fetch : isToken "GET" = true := rfl

/-- A message with some headers, all of them valid, and no body. -/
def headerMessage (given : List (String × List UInt8)) : Message :=
  ⟨⟨"GET", isToken_fetch⟩, "/", validHeaders given, []⟩

/-- Headers under three spellings of a name: a text, a value that is no text, a header that is
not valid and another text. -/
def tagHeaders : List (String × List UInt8) :=
  [("X-Tag", Text.bytesOf "first"), ("x-tag", [233])] ++ [("x tag", Text.bytesOf "second")] ++
    [("X-TAG", Text.bytesOf "third")]

/-- A message with the first two of these headers, and then the others one by one. -/
def tagRequest : Request :=
  ((Request.ofMessage (.ofNat 0) (headerMessage (tagHeaders.take 2))).withHeader "x tag"
    "second").withHeader "X-TAG" "third"

theorem header_eq_firstText_tag :
    tagRequest.IsGiven tagHeaders ∧ tagRequest.header? "x-tAg" = some "first" := by
  have hmessage : Message.ofParts? "GET" "/" (tagHeaders.take 2) [] =
      some (headerMessage (tagHeaders.take 2)) := by decide
  have hgiven : tagRequest.IsGiven tagHeaders :=
    .withHeader (.withHeader (.message hmessage _) _ _) _ _
  have hfirst : firstText? "x-tAg" tagHeaders = some "first" := by decide
  exact ⟨hgiven, ((header_eq_firstText_iff hgiven "x-tAg").1.mpr (by decide)).trans hfirst⟩

/-- A value that is no text, and a text behind it. -/
def hiddenHeaders : List (String × List UInt8) := [("x-a", [233]), ("X-A", Text.bytesOf "ok")]

theorem header_not_firstText :
    (Request.ofMessage (.ofNat 0) (headerMessage hiddenHeaders)).IsGiven hiddenHeaders ∧
      firstText? "x-a" hiddenHeaders = some "ok" ∧
      (Request.ofMessage (.ofNat 0) (headerMessage hiddenHeaders)).header? "x-a" = none := by
  have hmessage : Message.ofParts? "GET" "/" hiddenHeaders [] =
      some (headerMessage hiddenHeaders) := by decide
  exact ⟨.message hmessage _, by decide, by decide⟩

end MarkedRoutes.Http
