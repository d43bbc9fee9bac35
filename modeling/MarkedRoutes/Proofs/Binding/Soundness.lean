import MarkedRoutes.Proofs.Binding.Rules
import MarkedRoutes.Source.ItemGrammar

/-!
# Soundness of binding

What binding promises when it succeeds: every parameter has exactly one entry, at
its own position, and the entries agree with the placeholders of the path, with
the markers and with the types.
-/

namespace MarkedRoutes

open MarkedRoutes.Source

def ParameterMarker.kind? : ParameterMarker → Option BindingKind
  | path _ => some .path
  | query _ => some .query
  | header _ => some .header
  | body => some .body
  | provided => some .provided
  | pipeline => some .pipeline
  | convert _ => none

/-- The binding markers are those that ask for a kind. -/
theorem ParameterMarker.isSome_kind? (marker : ParameterMarker) :
    marker.kind?.isSome = marker.isBinding := by
  cases marker <;> rfl

/-- What binding promises of the parameter at a position and of its entry. -/
structure SoundEntry (route : String) (position : ℕ) (parameter : DeclaredParameter)
    (entry : BoundParameter) : Prop where
  position_eq : entry.position = position
  name_eq : parameter.name = some entry.name
  type_eq : entry.type = parameter.valueType
  path : entry.kind = .path → ∃ isOptional,
    (entry.boundName, isOptional) ∈ (Template.ofText route).placeholders ∧
      (entry.isRequired = true ↔ isOptional = false) ∧
      (isOptional = false ↔ parameter.type.optionValue? = none)
  text : entry.kind = .query ∨ entry.kind = .header →
    (entry.isRequired = true ↔ parameter.type.optionValue? = none)
  marked : ∀ marker ∈ parameter.markers, ∀ kind, marker.kind? = some kind → entry.kind = kind
  unmarked : (∀ marker ∈ parameter.markers, marker.kind? = none) →
    entry.kind = .path ∨ entry.kind = .body
  pipeline : entry.kind = .pipeline → parameter.type.isContextHandle = true
  converter : entry.converter ≠ none →
    entry.kind = .path ∨ entry.kind = .query ∨ entry.kind = .header

/-- What binding promises of all parameters of a handler and of their entries. -/
structure SoundBinding (route : String) (parameters : List DeclaredParameter)
    (entries : List BoundParameter) : Prop where
  length_eq : entries.length = parameters.length
  entry : ∀ position parameter entry, parameters[position]? = some parameter →
    entries[position]? = some entry → SoundEntry route position parameter entry
  placeholders_nodup : ((Template.ofText route).placeholders.map Prod.fst).Nodup
  names_perm : (pathNames entries).Perm ((Template.ofText route).placeholders.map Prod.fst)
  body : kindCount .body entries ≤ 1
  pipeline : kindCount .pipeline entries ≤ 1

theorem ValueType.isOptional_ofType (type : TypeExpr) :
    (ValueType.ofType type).isOptional = type.optionValue?.isSome := by
  rw [ValueType.ofType]
  cases type.optionValue? <;> rfl

/-- A parameter has no other binding marker than the candidate's binding. -/
theorem Candidate.IsConsistent.marker_eq {candidate : Candidate}
    (hconsistent : candidate.IsConsistent) {marker : ParameterMarker} {kind : BindingKind}
    (hmem : marker ∈ candidate.parameter.markers) (hkind : marker.kind? = some kind) :
    candidate.binding = some marker := by
  have hbinding : marker.isBinding = true := by
    rw [← marker.isSome_kind?, hkind]
    rfl
  have hfilter := List.mem_filter.mpr ⟨hmem, hbinding⟩
  rw [hconsistent.bindings, Option.mem_toList] at hfilter
  exact hfilter

/-- A candidate's binding is a marker of the parameter. -/
theorem Candidate.IsConsistent.mem_markers {candidate : Candidate}
    (hconsistent : candidate.IsConsistent) {marker : ParameterMarker}
    (hbinding : candidate.binding = some marker) :
    marker ∈ candidate.parameter.markers := by
  have hmem := Option.mem_toList.mpr hbinding
  rw [← hconsistent.bindings] at hmem
  exact List.mem_of_mem_filter hmem

section Entries

variable {placeholders : List (String × Bool)} {candidate : Candidate} {entry : BoundParameter}

/-- A marked candidate gets the kind of its marker. -/
theorem BoundAs.kind_eq_of_marked (hbound : BoundAs placeholders candidate entry)
    {marker : ParameterMarker} {kind : BindingKind} (hbinding : candidate.binding = some marker)
    (hkind : marker.kind? = some kind) : entry.kind = kind := by
  cases hbound with
  | path hplaceholder hfits htype =>
      rw [Candidate.fitsPath, hbinding] at hfits
      cases marker <;> cases hfits
      cases hkind
      rfl
  | query hmarked | header hmarked | provided hmarked _ | pipeline hmarked _ _ =>
      cases hbinding.symm.trans hmarked
      cases hkind
      rfl
  | body hmarked hconverter =>
      rcases hmarked with hmarked | hmarked
      · cases hbinding.symm.trans hmarked
      · cases hbinding.symm.trans hmarked
        cases hkind
        rfl

/-- An unmarked candidate is taken by a placeholder or is the body. -/
theorem BoundAs.kind_of_unmarked (hbound : BoundAs placeholders candidate entry)
    (hbinding : candidate.binding = none) : entry.kind = .path ∨ entry.kind = .body := by
  cases hbound with
  | path => exact Or.inl rfl
  | body => exact Or.inr rfl
  | query hmarked | header hmarked | provided hmarked _ | pipeline hmarked _ _ =>
      cases hbinding.symm.trans hmarked

/-- An entry on the path has a placeholder that is optional exactly when the type is. -/
theorem BoundAs.path_spec (hbound : BoundAs placeholders candidate entry)
    (hkind : entry.kind = .path) : ∃ isOptional, (entry.boundName, isOptional) ∈ placeholders ∧
      (entry.isRequired = true ↔ isOptional = false) ∧
      (isOptional = false ↔ candidate.parameter.type.optionValue? = none) := by
  cases hbound with
  | @path isOptional hplaceholder hfits htype =>
      refine ⟨isOptional, hplaceholder, iff_of_eq (Bool.not_eq_true' isOptional), ?_⟩
      rw [← htype, DeclaredParameter.valueType, ValueType.isOptional_ofType,
        Option.isSome_eq_false_iff, Option.isNone_iff_eq_none]
  | query | header | provided | pipeline | body => cases hkind

/-- An entry of the query or the headers is required unless its type is optional. -/
theorem BoundAs.text_spec (hbound : BoundAs placeholders candidate entry)
    (hkind : entry.kind = .query ∨ entry.kind = .header) :
    entry.isRequired = true ↔ candidate.parameter.type.optionValue? = none := by
  cases hbound with
  | query | header =>
      show (!candidate.parameter.valueType.isOptional) = true ↔ _
      rw [Bool.not_eq_true', DeclaredParameter.valueType, ValueType.isOptional_ofType,
        Option.isSome_eq_false_iff, Option.isNone_iff_eq_none]
  | path | provided | pipeline | body => rcases hkind with hkind | hkind <;> cases hkind

/-- Every rule gives an entry that agrees with the parameter. -/
theorem soundEntry_of_boundAs {route : String} (hconsistent : candidate.IsConsistent)
    (hbound : BoundAs (Template.ofText route).placeholders candidate entry) :
    SoundEntry route candidate.parameter.position candidate.parameter entry where
  position_eq := by
    rw [hbound.eq_bind]
    rfl
  name_eq := by
    rw [hbound.eq_bind]
    exact hconsistent.name
  type_eq := by
    rw [hbound.eq_bind]
    rfl
  path := hbound.path_spec
  text := hbound.text_spec
  marked := fun marker hmem kind hkind =>
    hbound.kind_eq_of_marked (hconsistent.marker_eq hmem hkind) hkind
  unmarked := by
    intro hunmarked
    apply hbound.kind_of_unmarked
    cases hbinding : candidate.binding with
    | none => rfl
    | some marker =>
        have hkind := hunmarked marker (hconsistent.mem_markers hbinding)
        have hisBinding := hconsistent.isBinding hbinding
        rw [← marker.isSome_kind?, hkind] at hisBinding
        cases hisBinding
  pipeline := by
    intro hkind
    cases hbound with
    | pipeline hmarked hconverter htype => exact htype
    | path | query | header | provided | body => cases hkind
  converter := by
    intro hconverter
    cases hbound with
    | path => exact Or.inl rfl
    | query => exact Or.inr (Or.inl rfl)
    | header => exact Or.inr (Or.inr rfl)
    | provided _ hnone | pipeline _ hnone _ | body _ hnone => exact absurd hnone hconverter

end Entries

/-! ### Signatures -/

/-- The parameters of a loaded signature are numbered in order. -/
theorem position_ofSignature [SourceParser] {signature : Signature} {position : ℕ}
    {parameter : DeclaredParameter}
    (hparameter : (HandlerSignature.ofSignature signature).parameters[position]? = some parameter) :
    parameter.position = position := by
  rw [HandlerSignature.ofSignature, List.getElem?_mapIdx] at hparameter
  obtain ⟨source, -, rfl⟩ := Option.map_eq_some_iff.mp hparameter
  rfl

theorem positions_increase [SourceParser] (signature : Signature) :
    (HandlerSignature.ofSignature signature).parameters.Pairwise
      fun left right => left.position < right.position := by
  rw [List.pairwise_iff_getElem]
  intro first second hfirst hsecond hlt
  rw [position_ofSignature (List.getElem?_eq_getElem hfirst),
    position_ofSignature (List.getElem?_eq_getElem hsecond)]
  exact hlt

/-- Every parameter of a loaded signature has an entry at its position that agrees with it. -/
theorem soundEntry_of_bindParameters [SourceParser] {context : RouteContext} {signature : Signature}
    {entries : List BoundParameter}
    (hbind : bindParameters context (.ofSignature signature) = .ok entries) :
    entries.length = (HandlerSignature.ofSignature signature).parameters.length ∧
      ∀ position parameter entry,
        (HandlerSignature.ofSignature signature).parameters[position]? = some parameter →
        entries[position]? = some entry → SoundEntry context.route position parameter entry := by
  obtain ⟨-, candidates, hparameters, hconsistent, hbinds⟩ :=
    bindParameters_ok (positions_increase signature) hbind
  refine ⟨?_, fun position parameter entry hparameter hentry => ?_⟩
  · rw [← hparameters, List.length_map]
    exact hbinds.each.length_eq.symm
  · have hposition := position_ofSignature hparameter
    rw [← hparameters, List.getElem?_map] at hparameter
    obtain ⟨candidate, hcandidate, rfl⟩ := Option.map_eq_some_iff.mp hparameter
    obtain ⟨other, hother, hbound⟩ := getElem?_of_forall₂ hbinds.each hentry
    cases hcandidate.symm.trans hother
    have hsound := soundEntry_of_boundAs
      (hconsistent candidate (List.mem_of_getElem? hcandidate)) hbound
    rw [hposition] at hsound
    exact hsound

/-- Binding is sound for every loaded signature. -/
theorem soundBinding_of_bindParameters [SourceParser] {context : RouteContext}
    {signature : Signature} {entries : List BoundParameter}
    (hbind : bindParameters context (.ofSignature signature) = .ok entries) :
    SoundBinding context.route (HandlerSignature.ofSignature signature).parameters entries := by
  obtain ⟨hlength, hentries⟩ := soundEntry_of_bindParameters hbind
  obtain ⟨hnodup, candidates, -, -, hbinds⟩ :=
    bindParameters_ok (positions_increase signature) hbind
  exact ⟨hlength, hentries, hnodup, hbinds.names, hbinds.body, hbinds.pipeline⟩

def namedType (name : String) : TypeExpr := .path (.mk false [.mk name none])

/-- The signature of `fn show(id: u32, #[query] note: Option<u32>, #[pipeline] context:
&CallContext)`. -/
def showSignature : Signature where
  name := "show"
  line := 1
  parameters :=
    [⟨[], some "id", [], namedType "u32"⟩,
      ⟨[⟨false, false, ["query"], .bare⟩], some "note", [],
        .path (.mk false [.mk "Option" (some (.mk false [.type (namedType "u32")] false))])⟩,
      ⟨[⟨false, false, ["pipeline"], .bare⟩], some "context", [],
        .reference none false (namedType "CallContext")⟩]
  output := none
  isAsync := false
  hasReceiver := false
  hasGenerics := false

/-- The handler `show` on a path with one placeholder. -/
def showContext : RouteContext := ⟨"/notes/\x7bid\x7d", "show", ⟨"src/routes.rs", 1⟩⟩

def showEntries : List BoundParameter :=
  [⟨"id", "id", ⟨"u32", "u32", false⟩, 0, .path, true, none⟩,
    ⟨"note", "note", ⟨"Option<u32>", "u32", true⟩, 1, .query, false, none⟩,
    ⟨"context", "context", ⟨"&CallContext", "&CallContext", false⟩, 2, .pipeline, true, none⟩]

theorem bindParameters_show [SourceParser] :
    bindParameters showContext (.ofSignature showSignature) = .ok showEntries := by
  have hsorted : byPosition showEntries = showEntries :=
    byPosition_eq_of_perm (List.Perm.refl _) (by decide)
  have hbind : bindParameters showContext (.ofSignature showSignature) =
      .ok (byPosition showEntries) := rfl
  rw [hbind, hsorted]

section Standard

attribute [local instance] SourceParser.standard

theorem soundBinding_show :
    bindParameters showContext (.ofSignature showSignature) = .ok showEntries ∧
      SoundBinding showContext.route (HandlerSignature.ofSignature showSignature).parameters
        showEntries :=
  ⟨bindParameters_show, soundBinding_of_bindParameters bindParameters_show⟩

end Standard

end MarkedRoutes
