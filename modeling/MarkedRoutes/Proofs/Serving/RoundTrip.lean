import MarkedRoutes.Proofs.Http.FormEncoding
import MarkedRoutes.Proofs.Serving.PathParameters

/-!
# Round trips of values

A value is written as a text, the text is encoded into a path or a query, and the
request is routed, decoded and converted.  What the handler is given is the value.
In a path every placeholder of a template is replaced by the encoding of a text,
and in a query every pair is written behind the others.
-/

namespace MarkedRoutes

open MarkedRoutes.Http
open MarkedRoutes.Serving
open MarkedRoutes.Text

/-! ### Filled templates -/

/-- What a part of a template is replaced by when every name is assigned a text. -/
def Part.fill (assignment : String → String) : Part → List Char
  | .literal text => text.toList
  | .placeholder name _ => percentEncode unreservedSigns (assignment name)

/-- The path of a template whose placeholders are replaced by texts.  Empty segments are
dropped. -/
def Template.fill (template : Template) (assignment : String → String) : String :=
  String.ofList (((template.parts.map (Part.fill assignment)).filter fun piece =>
    !piece.isEmpty).flatMap ('/' :: ·))

def filledSelection (assignment : String → String) (parts : List Part) : Selection :=
  parts.map fun part => some (part.fill assignment)

/-- Parts whose placeholders are assigned texts that are not empty. -/
def Assigns (assignment : String → String) (parts : List Part) : Prop :=
  ∀ name isOptional, Part.placeholder name isOptional ∈ parts → assignment name ≠ ""

theorem arePlain_unreservedSigns : ArePlain unreservedSigns := by decide

theorem decodePiece_percentEncode (text : String) :
    decodePiece (percentEncode unreservedSigns text) = text := by
  rw [decodePiece, percentDecode_percentEncode arePlain_unreservedSigns,
    ofUtf8?_eq_some_iff.mpr rfl, Option.getD_some]

theorem isEmpty_percentEncode {text : String} (htext : text ≠ "") :
    (percentEncode unreservedSigns text).isEmpty = false :=
  List.isEmpty_eq_false_iff.mpr (mt percentEncode_eq_nil_iff.mp htext)

theorem slash_notMem_fill {assignment : String → String} {part : Part}
    (hliteral : ∀ text, part = .literal text → '/' ∉ text.toList) :
    '/' ∉ part.fill assignment := by
  cases part with
  | literal text => exact hliteral text rfl
  | placeholder name isOptional => exact notMem_percentEncode (by decide) (by decide) _

theorem admits_fill {assignment : String → String} {part : Part}
    (hassigns : Assigns assignment [part]) : admits part (part.fill assignment) = true := by
  cases part with
  | literal text => exact beq_self_eq_true text.toList
  | placeholder name isOptional =>
      have hne : assignment name ≠ "" := hassigns name isOptional List.mem_cons_self
      rw [admits, Part.fill, isEmpty_percentEncode hne, Bool.not_false]

/-- On a filled path every part is kept, and takes what it was filled with. -/
theorem choose_filledSelection {assignment : String → String} {parts : List Part}
    (hslashless : Slashless parts) (hassigns : Assigns assignment parts) :
    choose parts (spell (filledSelection assignment parts)) =
      some (filledSelection assignment parts) := by
  induction parts with
  | nil => rfl
  | cons part parts ih =>
      have hrest := ih (fun text hmem => hslashless text (List.mem_cons_of_mem part hmem))
        fun name isOptional hmem => hassigns name isOptional (List.mem_cons_of_mem part hmem)
      have hslash : '/' ∉ part.fill assignment :=
        slash_notMem_fill fun text heq => hslashless text (heq ▸ List.mem_cons_self)
      have hadmits : admits part (part.fill assignment) = true := by
        apply admits_fill
        intro name isOptional hmem
        exact hassigns name isOptional (List.mem_cons.mpr (Or.inl (List.mem_singleton.mp hmem)))
      have hstops : StopsAtSlash (spell (filledSelection assignment parts)) :=
        stopsAtSlash_of_choose hrest
      obtain ⟨hfirst, hafter⟩ := split_append hslash hstops
      have hpath : spell (filledSelection assignment (part :: parts)) =
          '/' :: (part.fill assignment ++ spell (filledSelection assignment parts)) := rfl
      rw [← hfirst] at hadmits
      rw [← hafter] at hrest
      rw [hpath, choose_cons_kept hadmits hrest, hfirst]
      rfl

theorem keptPlaceholders_filledSelection (assignment : String → String) (parts : List Part) :
    keptPlaceholders parts (filledSelection assignment parts) =
      (parts.filterMap Part.placeholder?).map fun placeholder =>
        (placeholder.1, percentEncode unreservedSigns (assignment placeholder.1)) := by
  induction parts with
  | nil => rfl
  | cons part parts ih =>
      cases part with
      | literal text => exact ih
      | placeholder name isOptional => exact congrArg _ ih

/-- Dropping the empty pieces of a filled template leaves the parts that the router keeps. -/
theorem toList_fill {template : String} {assignment : String → String}
    (hassigns : Assigns assignment (templateParts template)) :
    ((Template.ofText template).fill assignment).toList =
      spell (filledSelection assignment (templateParts template)) := by
  have hempty : ∀ segment ∈ splitOnChar '/' template.toList,
      (!((Part.ofText segment).fill assignment).isEmpty) = !segment.isEmpty := by
    intro segment hmem
    cases hpart : Part.ofText segment with
    | literal text => rw [Part.fill, toList_of_ofText_eq_literal hpart]
    | placeholder name isOptional =>
        have hsegment : segment.isEmpty = false := by
          cases segment with
          | nil => cases hpart
          | cons c rest => rfl
        have hkept : segment ∈ templateSegments template :=
          List.mem_filter.mpr ⟨hmem, by rw [hsegment, Bool.not_false]⟩
        have hname : assignment name ≠ "" :=
          hassigns name isOptional (List.mem_map.mpr ⟨segment, hkept, hpart⟩)
        rw [Part.fill, isEmpty_percentEncode hname, hsegment]
  have hsegments : (splitOnChar '/' template.toList).filter
      ((fun piece => !piece.isEmpty) ∘ Part.fill assignment ∘ Part.ofText) =
      templateSegments template :=
    List.filter_congr hempty
  rw [Template.fill, String.toList_ofList, Template.ofText, List.map_map, List.filter_map,
    hsegments, spell, filledSelection, templateParts, List.map_map, List.flatMap_map,
    List.flatMap_map]
  rfl

/-! ### Routed paths -/

def assignedTexts (assignment : String → String) (template : String) : List (String × String) :=
  (Template.ofText template).placeholders.map fun placeholder =>
    (placeholder.1, assignment placeholder.1)

theorem match?_fill {template : String} {assignment : String → String}
    (hplaceholders : (Template.ofText template).placeholders ≠ [])
    (hassigns : Assigns assignment (templateParts template)) :
    (templateMatcher template).match? ((Template.ofText template).fill assignment) =
      some (assignedTexts assignment template) := by
  have hparts : templateParts template ≠ [] := by
    intro hnil
    rw [placeholders_ofText, hnil] at hplaceholders
    exact hplaceholders rfl
  rw [match?_templateMatcher_eq hparts, toList_fill hassigns,
    choose_filledSelection (slashless_templateParts template) hassigns, Option.map_some,
    keptPlaceholders_filledSelection, List.map_map, assignedTexts, placeholders_ofText]
  refine congrArg some (List.map_congr_left fun placeholder _ => ?_)
  rw [Function.comp_apply, decodePiece_percentEncode]

/-- The texts that were assigned are looked up by their names, and nothing else is. -/
theorem lastValue?_assignedTexts (assignment : String → String) (template name : String) :
    lastValue? (assignedTexts assignment template) name =
      if name ∈ (Template.ofText template).placeholders.map Prod.fst then some (assignment name)
      else none := by
  cases hvalue : lastValue? (assignedTexts assignment template) name with
  | some value =>
      obtain ⟨placeholder, hplaceholder, heq⟩ := List.mem_map.mp (mem_of_lastValue? hvalue)
      cases heq
      rw [if_pos (List.mem_map_of_mem hplaceholder)]
  | none =>
      rw [if_neg]
      intro hmem
      obtain ⟨placeholder, hplaceholder, rfl⟩ := List.mem_map.mp hmem
      have hpair : (placeholder.1, assignment placeholder.1) ∈ assignedTexts assignment template :=
        List.mem_map.mpr ⟨placeholder, hplaceholder, rfl⟩
      obtain ⟨found, hfound⟩ := exists_lastValue?_of_mem hpair
      rw [hvalue] at hfound
      cases hfound

/-- A router that holds one template finds it for the paths that match. -/
theorem route_register [PatternEngine] {m : Type → Type} {method : RequestMethod}
    {template path : String} {endpoint : Endpoint m} {parameters : List (String × String)}
    (haccepts : AcceptsTemplate template)
    (hmatch : (templateMatcher template).match? path = some parameters) :
    ((Router.empty.register method template endpoint).1.route method path).1 =
      some ⟨template, parameters, endpoint⟩ := by
  have hentry : Router.asMatch? method path (RouteCall.entry ⟨method, template, endpoint⟩) =
      some ⟨template, parameters, endpoint⟩ := by
    have hmethod : (RouteCall.entry ⟨method, template, endpoint⟩).method = method := rfl
    rw [Router.asMatch?, if_pos hmethod, RouteCall.entry, hmatch]
    rfl
  have haccepted : acceptedCalls [(⟨method, template, endpoint⟩ : RouteCall m)] =
      [⟨method, template, endpoint⟩] := by
    apply acceptedCalls_eq_self
    rintro call hcall
    cases List.mem_singleton.mp hcall
    exact haccepts
  have hfind : (Router.empty.register method template endpoint).1.find? method path =
      some ⟨template, parameters, endpoint⟩ := by
    rw [Router.find?, entries_register Router.empty ⟨method, template, endpoint⟩, haccepted]
    change List.findSome? _ [_] = _
    rw [List.findSome?_cons, hentry]
  rw [Router.route, hfind]

/-- A filled path has no question mark besides those of its literals. -/
theorem questionMark_notMem_fill {template : String} {assignment : String → String}
    (hassigns : Assigns assignment (templateParts template))
    (hliterals : ∀ text, Part.literal text ∈ (Template.ofText template).parts →
      '?' ∉ text.toList) : '?' ∉ ((Template.ofText template).fill assignment).toList := by
  rw [toList_fill hassigns, spell, filledSelection, List.flatMap_map]
  intro hmem
  obtain ⟨part, hpart, hmark⟩ := List.mem_flatMap.mp hmem
  rcases List.mem_cons.mp hmark with heq | hmark
  · exact absurd heq (by decide)
  · cases part with
    | literal text =>
        obtain ⟨segment, hsegment, hsame⟩ := List.mem_map.mp hpart
        exact hliterals text
          (List.mem_map.mpr ⟨segment, List.mem_of_mem_filter hsegment, hsame⟩) hmark
    | placeholder name isOptional =>
        exact notMem_percentEncode (by decide) (by decide) (assignment name) hmark

/-! ### Conversion -/

section Conversion

variable {κ : Type} [HostTypes κ] [DecidableEq κ]

/-- Every way of converting the text of a parameter gives a value: by the registered converter
or by a named one, for a required parameter or for an optional one. -/
structure Converts (registries : Registries κ) {type : TypeCode κ}
    (converter : Converter type.Carrier) (text : Option String) (value : type.Carrier) : Prop where
  required : ∀ name source, convert registries type text name source = .ok value
  optional : convertOptional registries type text = .ok (some value)
  requiredWith : ∀ name source, convertWith converter text name source = .ok value
  optionalWith : convertOptionalWith converter text = some value

theorem converts_write {registries : Registries κ} {type : TypeCode κ}
    {converter : Converter type.Carrier} {value : type.Carrier}
    (hregistered : registries.converters.get? type = some converter)
    (hread : converter.read (converter.write value) = some value) :
    Converts registries converter (some (converter.write value)) value := by
  have hoptional : convertOptionalWith converter (some (converter.write value)) = some value :=
    hread
  have hrequired : ∀ name source,
      convertWith converter (some (converter.write value)) name source = .ok value := by
    intro name source
    rw [convertWith, hoptional]
  refine ⟨fun name source => ?_, ?_, hrequired, hoptional⟩
  · rw [convert_eq, hregistered]
    exact hrequired name source
  · rw [convertOptional_eq, hregistered]
    exact congrArg _ hoptional

/-- What becomes of a template whose placeholders are assigned texts: a router that accepted it
finds it for the filled path, exactly the texts that were assigned are looked up, and a value's
text is converted to the value.  The path survives being the path of a target, with or without
a query, unless a literal of the template holds a question mark. -/
structure PathRoundTrip [PatternEngine] {m : Type → Type} (registries : Registries κ)
    {type : TypeCode κ} (converter : Converter type.Carrier) (value : type.Carrier)
    (template : String) (assignment : String → String) (method : RequestMethod)
    (endpoint : Endpoint m) : Prop where
  route_eq : AcceptsTemplate template →
    ((Router.empty.register method template endpoint).1.route method
      ((Template.ofText template).fill assignment)).1 =
        some ⟨template, assignedTexts assignment template, endpoint⟩
  texts : ∀ (request : Request) (name : String),
    (request.withPathParameters (assignedTexts assignment template)).pathParameter? name =
      if name ∈ (Template.ofText template).placeholders.map Prod.fst then some (assignment name)
      else none
  values : ∀ request : Request, ∀ name ∈ (Template.ofText template).placeholders.map Prod.fst,
    assignment name = converter.write value →
      Converts registries converter
        ((request.withPathParameters (assignedTexts assignment template)).pathParameter? name) value
  target : (∀ text, Part.literal text ∈ (Template.ofText template).parts → '?' ∉ text.toList) →
    ∀ (id : RequestId) (pairs : List (String × String)),
      (Request.ofTarget id method ((Template.ofText template).fill assignment)).path =
          (Template.ofText template).fill assignment ∧
        (Request.ofTarget id method ((Template.ofText template).fill assignment ++ "?" ++
          String.ofList (formQuery pairs))).path = (Template.ofText template).fill assignment

/-- The last pair of a name in a query is looked up, whatever stands before it. -/
theorem lastValue?_append_cons {before after : List (String × String)} {name value : String}
    (hafter : ∀ pair ∈ after, pair.1 ≠ name) :
    lastValue? (before ++ (name, value) :: after) name = some value := by
  have hnone : after.reverse.find? (fun pair => pair.1 = name) = none := by
    rw [List.find?_eq_none]
    intro pair hpair hname
    exact hafter pair (List.mem_reverse.mp hpair) (of_decide_eq_true hname)
  rw [lastValue?, List.reverse_append, List.reverse_cons, List.append_assoc, List.find?_append,
    hnone, Option.none_or, List.singleton_append]
  simp

/-- A value whose text its registered converter reads back reaches the handler unchanged: on the
path of any template, in any of its placeholders and whatever the others are assigned, and in
any query, as the last pair of its name. -/
theorem roundTrip [PatternEngine] {m : Type → Type} {registries : Registries κ}
    {type : TypeCode κ} {converter : Converter type.Carrier} {value : type.Carrier}
    (hregistered : registries.converters.get? type = some converter)
    (hread : converter.read (converter.write value) = some value) :
    (∀ (template : String) (assignment : String → String) (method : RequestMethod)
      (endpoint : Endpoint m), (Template.ofText template).placeholders ≠ [] →
      (∀ placeholder ∈ (Template.ofText template).placeholders, assignment placeholder.1 ≠ "") →
      PathRoundTrip registries converter value template assignment method endpoint) ∧
    ∀ (id : RequestId) (method : RequestMethod) (path : String)
      (before after : List (String × String)) (name : String), '?' ∉ path.toList →
      (∀ pair ∈ after, pair.1 ≠ name) →
      Converts registries converter
        ((Request.ofTarget id method (path ++ "?" ++ String.ofList
          (formQuery (before ++ (name, converter.write value) :: after)))).queryParameter? name)
        value := by
  constructor
  · intro template assignment method endpoint hplaceholders htexts
    have hassigns : Assigns assignment (templateParts template) := fun name isOptional hmem =>
      htexts (name, isOptional) (mem_placeholders_iff.mpr hmem)
    refine ⟨fun haccepts => route_register haccepts (match?_fill hplaceholders hassigns),
      ?_, ?_, ?_⟩
    · intro request name
      exact lastValue?_assignedTexts assignment template name
    · intro request name hname hvalue
      have hlookup := lastValue?_assignedTexts assignment template name
      rw [if_pos hname, hvalue] at hlookup
      rw [Request.pathParameter?, Request.withPathParameters, hlookup]
      exact converts_write hregistered hread
    · intro hliterals id pairs
      have hmark := questionMark_notMem_fill hassigns hliterals
      exact ⟨path_ofTarget id method hmark, (ofTarget_append_query id method hmark pairs).1⟩
  · intro id method path before after name hpath hafter
    rw [Request.queryParameter?, (ofTarget_append_query id method hpath _).2,
      lastValue?_append_cons hafter]
    exact converts_write hregistered hread

def noteConverter : Converter (TypeCode.text : TypeCode Bookshelf.ShelfType).Carrier :=
  .primitive .text

/-- A text with reserved signs. -/
def noteText : String := "a/b?c% &+=é"

def notePartPath : String := "//notes/\x7bid\x7d/\x7bpart?\x7d"

section Unlimited

attribute [local instance] PatternEngine.unlimited

theorem roundTrip_note :
    Registries.standard.converters.get? .text = some noteConverter ∧
      noteConverter.read (noteConverter.write noteText) = some noteText ∧
      PathRoundTrip .standard noteConverter noteText notePartPath (fun _ => noteText)
        getMethod (fun _ => pure (.empty .ok) : Endpoint Id) ∧
      Converts .standard noteConverter
        ((Request.ofTarget noteRequest.id getMethod ("/notes/7" ++ "?" ++ String.ofList
          (formQuery ([("part", "2")] ++ ("part", noteConverter.write noteText) ::
            [("id", "é")])))).queryParameter? "part") noteText := by
  have hregistered : Registries.standard.converters.get? .text = some noteConverter := rfl
  have hread : noteConverter.read (noteConverter.write noteText) = some noteText := rfl
  obtain ⟨hpath, hquery⟩ := @roundTrip _ _ _ _ Id _ _ _ _ hregistered hread
  refine ⟨hregistered, hread, hpath _ _ _ _ (by decide) ?_, hquery _ _ _ _ _ _ ?_ ?_⟩
  · intro placeholder _
    decide
  · decide
  · decide

end Unlimited

end Conversion

end MarkedRoutes
