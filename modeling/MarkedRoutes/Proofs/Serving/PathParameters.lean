import MarkedRoutes.Bookshelf.Types
import MarkedRoutes.Proofs.Binding.Soundness
import MarkedRoutes.Proofs.Generated.ParameterValue
import MarkedRoutes.Proofs.Serving.Routing

/-!
# Path parameters

The compiler binds parameters to the placeholders of a route, and the router
takes values out of a path by the same route.  Both read the route on their own.
Here they are shown to agree: when a path is routed to the route, every required
parameter finds a value that is not empty, and every value that was taken has one
parameter that looks it up.
-/

namespace MarkedRoutes

open MarkedRoutes.Http
open MarkedRoutes.Serving
open MarkedRoutes.Source
open MarkedRoutes.Text

/-! ### Looking up values -/

theorem mem_of_lastValue? {pairs : List (String × String)} {name value : String}
    (hvalue : lastValue? pairs name = some value) : (name, value) ∈ pairs := by
  rw [lastValue?] at hvalue
  obtain ⟨⟨found, text⟩, hfound, rfl⟩ := Option.map_eq_some_iff.mp hvalue
  have hname := List.find?_some hfound
  obtain rfl : found = name := of_decide_eq_true hname
  exact List.mem_reverse.mp (List.mem_of_find?_eq_some hfound)

theorem exists_lastValue?_of_mem {pairs : List (String × String)} {name value : String}
    (hmem : (name, value) ∈ pairs) : ∃ found, lastValue? pairs name = some found := by
  have hfound : (pairs.reverse.find? fun pair => pair.1 = name).isSome = true :=
    List.find?_isSome.mpr ⟨(name, value), List.mem_reverse.mpr hmem, decide_eq_true rfl⟩
  obtain ⟨pair, hpair⟩ := Option.isSome_iff_exists.mp hfound
  exact ⟨pair.2, by rw [lastValue?, hpair, Option.map_some]⟩

/-! ### Placeholders -/

/-- The name of a placeholder, with whether it is optional. -/
def Part.placeholder? : Part → Option (String × Bool)
  | .literal _ => none
  | .placeholder name isOptional => some (name, isOptional)

/-- The compiler and the router find the same placeholders in a route: the empty segments
that only the router drops are literals. -/
theorem placeholders_ofText (route : String) :
    (Template.ofText route).placeholders = (templateParts route).filterMap Part.placeholder? := by
  rw [Template.placeholders, Template.ofText, templateParts, templateSegments,
    List.filterMap_map, List.filterMap_map, List.filterMap_filter]
  congr 1
  funext segment
  cases segment with
  | nil => rfl
  | cons c rest =>
      rw [Function.comp_apply]
      cases hpart : Part.ofText (c :: rest) <;> simp [hpart, Part.placeholder?]

theorem mem_placeholders_iff {route name : String} {isOptional : Bool} :
    (name, isOptional) ∈ (Template.ofText route).placeholders ↔
      Part.placeholder name isOptional ∈ templateParts route := by
  rw [placeholders_ofText, List.mem_filterMap]
  constructor
  · rintro ⟨_ | ⟨found, optional⟩, hmem, hpart⟩
    · cases hpart
    · cases hpart
      exact hmem
  · intro hmem
    exact ⟨_, hmem, rfl⟩

/-- What is kept are placeholders of the parts, each with a piece that is not empty. -/
theorem placeholder_of_mem_kept {parts : List Part} {selection : Selection}
    (hfits : List.Forall₂ Serving.Fits parts selection) {name : String} {piece : List Char}
    (hkept : (name, piece) ∈ keptPlaceholders parts selection) :
    piece ≠ [] ∧ ∃ isOptional, Part.placeholder name isOptional ∈ parts := by
  induction hfits with
  | nil => cases hkept
  | @cons part kept parts selection hpart _ ih =>
      have hrest : (name, piece) ∈ keptPlaceholders parts selection →
          piece ≠ [] ∧ ∃ isOptional, Part.placeholder name isOptional ∈ part :: parts := by
        intro hmem
        obtain ⟨hpiece, isOptional, hplaceholder⟩ := ih hmem
        exact ⟨hpiece, isOptional, List.mem_cons_of_mem part hplaceholder⟩
      match part, kept with
      | .literal _, none | .literal _, some _ | .placeholder _ _, none => exact hrest hkept
      | .placeholder other isOptional, some first =>
          rcases List.mem_cons.mp hkept with heq | hmem
          · cases heq
            exact ⟨hpart.1, isOptional, List.mem_cons_self⟩
          · exact hrest hmem

/-- A required placeholder is never left out. -/
theorem exists_mem_kept_of_required {parts : List Part} {selection : Selection}
    (hfits : List.Forall₂ Serving.Fits parts selection) {name : String}
    (hrequired : Part.placeholder name false ∈ parts) :
    ∃ piece, (name, piece) ∈ keptPlaceholders parts selection := by
  induction hfits with
  | nil => cases hrequired
  | @cons part kept parts selection hpart _ ih =>
      rcases List.mem_cons.mp hrequired with rfl | hmem
      · cases kept with
        | none => cases hpart
        | some piece => exact ⟨piece, List.mem_cons_self⟩
      · obtain ⟨piece, hpiece⟩ := ih hmem
        match part, kept with
        | .literal _, none | .literal _, some _ | .placeholder _ _, none => exact ⟨piece, hpiece⟩
        | .placeholder _ _, some _ => exact ⟨piece, List.mem_cons_of_mem _ hpiece⟩

/-! ### Pieces -/

theorem percentDecode_eq_nil_iff {bytes : List UInt8} :
    percentDecode bytes = [] ↔ bytes = [] := by
  constructor
  · intro hdecoded
    match bytes with
    | [] => rfl
    | [first] | [first, second] => cases hdecoded
    | first :: second :: third :: rest =>
        rw [percentDecode] at hdecoded
        split at hdecoded <;> cases hdecoded
  · rintro rfl
    rfl

/-- A piece that is not empty never stands for the empty text. -/
theorem ne_empty_of_standsFor {piece : List Char} {value : String}
    (hstands : StandsFor piece value) (hpiece : piece ≠ []) : value ≠ "" := by
  rintro rfl
  rcases hstands with hbytes | ⟨-, hvalue⟩
  · have hdecoded : percentDecode (utf8 piece) = [] := hbytes.symm
    exact hpiece (utf8_eq_nil_iff.mp (percentDecode_eq_nil_iff.mp hdecoded))
  · apply hpiece
    rw [← String.toList_ofList (l := piece), ← hvalue]
    rfl

theorem exists_mem_of_forall₂ {α β : Type} {R : α → β → Prop} {first : List α} {second : List β}
    (hrelated : List.Forall₂ R first second) {item : α} (hmem : item ∈ first) :
    ∃ other ∈ second, R item other := by
  induction hrelated with
  | nil => cases hmem
  | @cons head other first second hhead _ ih =>
      rcases List.mem_cons.mp hmem with rfl | hmem
      · exact ⟨other, List.mem_cons_self, hhead⟩
      · obtain ⟨found, hfound, hrelates⟩ := ih hmem
        exact ⟨found, List.mem_cons_of_mem other hfound, hrelates⟩

/-- A value that was taken has a placeholder, and is not empty. -/
theorem placeholder_of_reports {template path name value : String} {selection : Selection}
    {parameters : List (String × String)}
    (hreports : Reports template path selection parameters) (hmem : (name, value) ∈ parameters) :
    value ≠ "" ∧ ∃ isOptional, (name, isOptional) ∈ (Template.ofText template).placeholders := by
  obtain ⟨⟨found, piece⟩, hkept, hname, hstands⟩ :=
    exists_mem_of_forall₂ hreports.parameters_eq.flip hmem
  obtain rfl : name = found := hname
  obtain ⟨hpiece, isOptional, hplaceholder⟩ :=
    placeholder_of_mem_kept hreports.isMatch.spells.fits hkept
  exact ⟨ne_empty_of_standsFor hstands hpiece, isOptional, mem_placeholders_iff.mpr hplaceholder⟩

/-- A value is taken for every required placeholder. -/
theorem exists_value_of_reports {template path name : String} {selection : Selection}
    {parameters : List (String × String)}
    (hreports : Reports template path selection parameters)
    (hrequired : (name, false) ∈ (Template.ofText template).placeholders) :
    ∃ value, (name, value) ∈ parameters := by
  obtain ⟨piece, hkept⟩ := exists_mem_kept_of_required hreports.isMatch.spells.fits
    (mem_placeholders_iff.mp hrequired)
  obtain ⟨⟨found, value⟩, hmem, hname, -⟩ := exists_mem_of_forall₂ hreports.parameters_eq hkept
  obtain rfl : found = name := hname
  exact ⟨value, hmem⟩

/-! ### Routed requests -/

/-- What the router reports when it finds a route. -/
theorem reports_of_route [PatternEngine] {m : Type → Type} {calls : List (RouteCall m)}
    {method : RequestMethod} {path : String} {found : RouteMatch m}
    (hroute : ((registerAll calls).route method path).1 = some found) :
    ∃ selection, Reports found.template path selection found.pathParameters := by
  have hfind : (registerAll calls).find? method path = some found := by
    rw [Router.route] at hroute
    cases hfound : (registerAll calls).find? method path with
    | none =>
        rw [hfound] at hroute
        cases hroute
    | some other =>
        rw [hfound] at hroute
        exact hroute
  rw [Router.find?, entries_registerAll, List.findSome?_map] at hfind
  obtain ⟨call, -, hmatch⟩ := List.exists_of_findSome?_eq_some hfind
  obtain ⟨-, htemplate, -, selection, hreports⟩ := asMatch?_entry_eq_some hmatch
  rw [← htemplate] at hreports
  exact ⟨selection, hreports⟩

variable {κ : Type} [HostTypes κ] [DecidableEq κ]

/-- What bound parameters find on the path of a request: required ones a value and optional
ones perhaps one, never an empty one; no value is taken that is not looked up by exactly one
parameter; and what is refused is a value that its converter does not read. -/
structure SuppliesPath (registries : Registries κ) (entries : List BoundParameter)
    (request : Request) : Prop where
  required : ∀ entry ∈ entries, entry.kind = .path → entry.isRequired = true →
    ∃ text, request.pathParameter? entry.boundName = some text ∧ text ≠ ""
  optional : ∀ entry ∈ entries, entry.kind = .path → entry.isRequired = false →
    ∀ text, request.pathParameter? entry.boundName = some text → text ≠ ""
  captured : ∀ captured ∈ request.pathParameters,
    (pathNames entries).count captured.1 = 1
  refused : ∀ entry ∈ entries, entry.kind = .path → entry.isRequired = true →
    ∀ parameter : TextParameter κ, parameter.source = .path →
      parameter.name = entry.boundName →
      (ArgumentSource.text parameter).bind registries request =
        .error (.parameter parameter.name .path) →
      ∃ text converter, request.pathParameter? entry.boundName = some text ∧
        parameter.converter.or (registries.converters.get? parameter.type) = some converter ∧
        converter.read text = none

/-- A parameter whose text is there is refused only when its converter does not read it. -/
theorem read_eq_none_of_bindText {registries : Registries κ} {parameter : TextParameter κ}
    {text name : String} {source : TextSource}
    (hrefused : parameter.bindText registries (some text) = .error (.parameter name source)) :
    ∃ converter, parameter.converter.or (registries.converters.get? parameter.type) =
      some converter ∧ converter.read text = none := by
  rw [bindText_eq] at hrefused
  cases hconverter : parameter.converter.or (registries.converters.get? parameter.type) with
  | none =>
      rw [hconverter] at hrefused
      cases hrefused
  | some converter =>
      refine ⟨converter, rfl, ?_⟩
      rw [hconverter] at hrefused
      cases hread : converter.read text with
      | none => rfl
      | some value =>
          have hfound : convertOptionalWith converter (some text) = some value := hread
          simp only [hfound] at hrefused
          cases hrefused

/-- Whenever the parameters of a handler are bound on a route, and a path is routed to that
route, the parameters find their values on the path. -/
theorem suppliesPath_of_route [PatternEngine] {m : Type → Type} {context : RouteContext}
    {signature : HandlerSignature} {entries : List BoundParameter}
    (hbind : bindParameters context signature = .ok entries)
    {calls : List (RouteCall m)} {method : RequestMethod} {path : String} {found : RouteMatch m}
    (hroute : ((registerAll calls).route method path).1 = some found)
    (htemplate : found.template = context.route) (registries : Registries κ)
    (request : Request) :
    SuppliesPath registries entries (request.withPathParameters found.pathParameters) := by
  obtain ⟨selection, hreports⟩ := reports_of_route hroute
  rw [htemplate] at hreports
  obtain ⟨hnodup, -, taken, unsorted, -, -, -, hbinds, rfl⟩ := bindParameters_sorts hbind
  have hsorted : (byPosition unsorted).Perm unsorted := List.mergeSort_perm unsorted _
  have hnames : (pathNames (byPosition unsorted)).Perm
      ((Template.ofText context.route).placeholders.map Prod.fst) :=
    ((hsorted.filter _).map _).trans hbinds.names
  have hrequired : ∀ entry ∈ byPosition unsorted, entry.kind = .path → entry.isRequired = true →
      ∃ text, lastValue? found.pathParameters entry.boundName = some text ∧ text ≠ "" := by
    intro entry hentry hkind hrequired
    obtain ⟨candidate, -, hbound⟩ :=
      exists_mem_of_forall₂ hbinds.each.flip (hsorted.mem_iff.mp hentry)
    obtain ⟨isOptional, hplaceholder, hoptional, -⟩ := hbound.path_spec hkind
    rw [hoptional.mp hrequired] at hplaceholder
    obtain ⟨value, hvalue⟩ := exists_value_of_reports hreports hplaceholder
    obtain ⟨text, htext⟩ := exists_lastValue?_of_mem hvalue
    exact ⟨text, htext, (placeholder_of_reports hreports (mem_of_lastValue? htext)).1⟩
  refine ⟨hrequired, ?_, ?_, ?_⟩
  · intro entry _ _ _ text htext
    exact (placeholder_of_reports hreports (mem_of_lastValue? htext)).1
  · rintro ⟨name, value⟩ hmem
    obtain ⟨-, isOptional, hplaceholder⟩ := placeholder_of_reports hreports hmem
    apply List.count_eq_one_of_mem (hnames.nodup_iff.mpr hnodup)
    exact hnames.mem_iff.mpr (List.mem_map_of_mem (f := Prod.fst) hplaceholder)
  · intro entry hentry hkind hisRequired parameter hsource hname hrefused
    obtain ⟨text, htext, -⟩ := hrequired entry hentry hkind hisRequired
    have hlookup : sourceText? (request.withPathParameters found.pathParameters)
        parameter.source parameter.name = some text := by
      rw [hsource, hname]
      exact htext
    rw [ArgumentSource.bind, hlookup] at hrefused
    obtain ⟨converter, hconverter, hread⟩ := read_eq_none_of_bindText hrefused
    exact ⟨text, converter, htext, hconverter, hread⟩

def showCalls : List (RouteCall Id) :=
  [⟨getMethod, showContext.route, fun _ => pure (.empty .ok)⟩]

/-- What the router finds for the note `7 a`. -/
def showMatch : RouteMatch Id := ⟨showContext.route, [("id", "7 a")], fun _ => pure (.empty .ok)⟩

section Standard

attribute [local instance] SourceParser.standard PatternEngine.unlimited

theorem route_show :
    ((registerAll showCalls).route getMethod "/notes/7%20a").1 = some showMatch := rfl

theorem zero_lt_pow : 0 < Nat.pow 2 128 := Nat.pow_pos Nat.zero_lt_two

def noteRequest : Request := .ofTarget ⟨⟨0, zero_lt_pow⟩⟩ getMethod "/notes/7%20a"

theorem suppliesPath_show :
    bindParameters showContext (.ofSignature showSignature) = .ok showEntries ∧
      ((registerAll showCalls).route getMethod "/notes/7%20a").1 = some showMatch ∧
      showMatch.template = showContext.route ∧
      SuppliesPath (.standard : Registries Bookshelf.ShelfType) showEntries
        (noteRequest.withPathParameters showMatch.pathParameters) :=
  ⟨bindParameters_show, route_show, rfl,
    suppliesPath_of_route bindParameters_show route_show rfl .standard noteRequest⟩

end Standard

end MarkedRoutes
