import MarkedRoutes.Loading
import MarkedRoutes.Proofs.Results
import MarkedRoutes.Source.ItemGrammar
import Mathlib.Data.List.Enum
import Mathlib.Data.List.Forall2

/-!
# Loading a source

A source is loaded in one walk over its items, at every depth of inline modules: an item comes
before what it holds, and its own attributes come before those of its parameters.  Every malformed
marker on the way is reported, and where there is none every item is declared with exactly the
markers that stand on it.  A converter is filed for every implementation of `Converter<T>`, and
the `!` of a negative one is read over.
-/

namespace MarkedRoutes

open MarkedRoutes.Source

/-! ### The walk over items -/

/-- What an item is declared as, and reported as. -/
structure ItemTitle where
  kind : DeclarationKind
  name : String
  line : ℕ

def Source.Item.title? : Item → Option ItemTitle
  | .module _ _ name line _ => some ⟨.module, name, line⟩
  | .function _ _ signature => some ⟨.function, signature.name, signature.line⟩
  | .implementation _ line _ subject => some ⟨.implementation, subject.canonical, line⟩
  | .named kind _ _ name line => some ⟨.ofNamed kind, name, line⟩
  | .other _ => none

/-- The parameters of a function, the receiver apart. -/
def Source.Item.parameters : Item → List Parameter
  | .function _ _ signature => signature.parameters
  | _ => []

/-- The items that stand in an inline module. -/
def Source.Item.content : Item → List Item
  | .module _ _ _ _ (some items) => items
  | _ => []

/-- An item and the path of the module that holds it. -/
structure PlacedItem where
  modulePath : String
  item : Item

mutual

/-- An item, and what it holds at every depth. -/
def withinItem (modulePath : String) : Item → List PlacedItem
  | .module attributes visibility name line (some content) =>
    ⟨modulePath, .module attributes visibility name line (some content)⟩ ::
      withinItems (childPath modulePath name) content
  | .module attributes visibility name line none =>
    [⟨modulePath, .module attributes visibility name line none⟩]
  | .function attributes visibility signature =>
    [⟨modulePath, .function attributes visibility signature⟩]
  | .implementation attributes line interface subject =>
    [⟨modulePath, .implementation attributes line interface subject⟩]
  | .named kind attributes visibility name line =>
    [⟨modulePath, .named kind attributes visibility name line⟩]
  | .other attributes => [⟨modulePath, .other attributes⟩]

/-- The items of a list at every depth, each before what it holds. -/
def withinItems (modulePath : String) : List Item → List PlacedItem
  | [] => []
  | first :: rest => withinItem modulePath first ++ withinItems modulePath rest

end

/-! ### Places of markers -/

def faultOf {α : Type} : Option (Except MarkerFault α) → Option MarkerFault
  | some (.error fault) => some fault
  | _ => none

/-- An attribute of an item that loads, or of a parameter of it. -/
structure MarkerSite where
  title : ItemTitle
  parameter : Option Parameter
  marked : Attribute

namespace MarkerSite

/-- What is wrong with the marker at this place, when it is a malformed one. -/
def fault? [SourceParser] (site : MarkerSite) : Option MarkerFault :=
  match site.parameter with
  | none => faultOf (itemMarker? site.marked)
  | some _ => faultOf (parameterMarker? site.marked)

/-- The reason that is given for a malformed marker. -/
def reason (site : MarkerSite) (fault : MarkerFault) : InvalidReason :=
  match site.parameter with
  | none => .malformedMarker site.marked.name fault
  | some parameter =>
    .malformedParameterMarker (parameterLabel parameter) site.marked.name fault

/-- The report of a malformed marker: the declaration of the item is invalid. -/
def diagnostic? [SourceParser] (file : String) (site : MarkerSite) : Option Diagnostic :=
  site.fault?.map fun fault =>
    .invalidDeclaration ⟨file, site.title.line⟩ site.title.name (site.reason fault)

end MarkerSite

/-- The attributes of an item that loads: its own, then those of its parameters. -/
def Source.Item.markerSites (item : Item) : List MarkerSite :=
  match item.title? with
  | none => []
  | some title =>
    item.attributes.map (⟨title, none, ·⟩) ++
      item.parameters.flatMap fun parameter =>
        parameter.attributes.map (⟨title, some parameter, ·⟩)

/-- The places of markers in items, in the order of the walk. -/
def markerSites (modulePath : String) (items : List Item) : List MarkerSite :=
  (withinItems modulePath items).flatMap fun placed => placed.item.markerSites

/-! ### What is declared -/

/-- A parameter is declared at its position, with a marker for every marker attribute. -/
structure DeclaresParameter [SourceParser] (indexed : Parameter × ℕ)
    (declared : DeclaredParameter) : Prop where
  name : declared.name = indexed.1.name
  type : declared.type = indexed.1.type
  position : declared.position = indexed.2
  markers : indexed.1.attributes.filterMap parameterMarker? = declared.markers.map .ok

def Declaration.parameters (declaration : Declaration) : List DeclaredParameter :=
  (declaration.signature.map HandlerSignature.parameters).getD []

/-- An item is declared with a marker for every marker attribute, and its parameters in order. -/
structure DeclaresItem [SourceParser] (file : String) (item : Item) (declaration : Declaration) :
    Prop where
  title : item.title? = some ⟨declaration.kind, declaration.name, declaration.location.line⟩
  file : declaration.location.file = file
  markers : item.attributes.filterMap itemMarker? = declaration.markers.map .ok
  parameters : List.Forall₂ DeclaresParameter item.parameters.zipIdx declaration.parameters

/-- The items that load are declared in order, and the content of each below it. -/
inductive DeclaresItems [SourceParser] (file : String) : List Item → List Declaration → Prop
  | nil : DeclaresItems file [] []
  | skip {item : Item} {items : List Item} {declarations : List Declaration}
      (hother : item.title? = none) (hrest : DeclaresItems file items declarations) :
      DeclaresItems file (item :: items) declarations
  | declare {item : Item} {items : List Item} {declaration : Declaration}
      {declarations : List Declaration} (hitem : DeclaresItem file item declaration)
      (hcontent : DeclaresItems file item.content declaration.children)
      (hrest : DeclaresItems file items declarations) :
      DeclaresItems file (item :: items) (declaration :: declarations)

/-- An item in a module declares a converter: it implements `Converter<T>`, which has exactly one
type argument. -/
def PlacedItem.DeclaresConverter (file : String) (placed : PlacedItem)
    (declared : ConverterDeclaration) : Prop :=
  ∃ attributes line interface subject arguments target,
    placed.item = .implementation attributes line (some interface) subject ∧
      interface.path.segments.getLast? = some (.mk "Converter" (some arguments)) ∧
      arguments.types = [target] ∧
      declared = ⟨subject.canonical, target.canonical, placed.modulePath, ⟨file, line⟩⟩

/-- The items that declare converters have these filed, one for each in order. -/
inductive FilesConverters (file : String) : List PlacedItem → List ConverterDeclaration → Prop
  | nil : FilesConverters file [] []
  | skip {first : PlacedItem} {rest : List PlacedItem} {converters : List ConverterDeclaration}
      (hother : ∀ declared, ¬first.DeclaresConverter file declared)
      (hrest : FilesConverters file rest converters) :
      FilesConverters file (first :: rest) converters
  | file {first : PlacedItem} {rest : List PlacedItem} {declared : ConverterDeclaration}
      {converters : List ConverterDeclaration} (hdeclared : first.DeclaresConverter file declared)
      (hrest : FilesConverters file rest converters) :
      FilesConverters file (first :: rest) (declared :: converters)

/-- A source that loads: every item is declared, and every converter filed. -/
structure IsLoadedAs [SourceParser] (modulePath file : String) (items : List Item)
    (loaded : LoadedSource) : Prop where
  modulePath_eq : loaded.unit.modulePath = modulePath
  file_eq : loaded.unit.file = file
  declares : DeclaresItems file items loaded.unit.items
  files : FilesConverters file (withinItems modulePath items) loaded.converters

/-! ### Reports -/

section Reports

variable {file modulePath : String}

theorem map_malformedMarkers {α β : Type} (read : Attribute → Option (Except MarkerFault α))
    (report : String → MarkerFault → β) (attributes : List Attribute) :
    (malformedMarkers read attributes).map (fun (marker, fault) => report marker fault) =
      attributes.filterMap fun marked => (faultOf (read marked)).map (report marked.name) := by
  rw [malformedMarkers, List.map_filterMap]
  refine List.filterMap_congr fun marked _ => ?_
  rcases read marked with - | - | - <;> rfl

/-- The reports of an item are those of its own places of markers. -/
theorem filterMap_markerSites [SourceParser] {item : Item} {title : ItemTitle}
    (htitle : item.title? = some title) :
    item.markerSites.filterMap (MarkerSite.diagnostic? file) =
      itemMarkerDiagnostics ⟨file, title.line⟩ title.name item.attributes ++
        parameterMarkerDiagnostics ⟨file, title.line⟩ title.name item.parameters := by
  have hown : (item.attributes.map (MarkerSite.mk title none)).filterMap
      (MarkerSite.diagnostic? file) =
        itemMarkerDiagnostics ⟨file, title.line⟩ title.name item.attributes := by
    rw [List.filterMap_map]
    exact (map_malformedMarkers itemMarker? (fun marker fault => Diagnostic.invalidDeclaration
      ⟨file, title.line⟩ title.name (.malformedMarker marker fault)) item.attributes).symm
  have hparameter : ∀ parameter : Parameter,
      (parameter.attributes.map (MarkerSite.mk title (some parameter))).filterMap
        (MarkerSite.diagnostic? file) =
          (malformedMarkers parameterMarker? parameter.attributes).map fun (marker, fault) =>
            .invalidDeclaration ⟨file, title.line⟩ title.name
              (.malformedParameterMarker (parameterLabel parameter) marker fault) := by
    intro parameter
    rw [List.filterMap_map]
    exact (map_malformedMarkers parameterMarker? (fun marker fault =>
      Diagnostic.invalidDeclaration ⟨file, title.line⟩ title.name
        (.malformedParameterMarker (parameterLabel parameter) marker fault))
      parameter.attributes).symm
  rw [Item.markerSites, htitle]
  dsimp only
  rw [List.filterMap_append, hown, List.filterMap_flatMap, parameterMarkerDiagnostics]
  simp only [hparameter]

mutual

/-- The reports of an item are those of the places of markers on the walk through it. -/
theorem diagnosticsOfItem_eq [SourceParser] (modulePath : String) : ∀ item : Item,
    diagnosticsOfItem file item = (withinItem modulePath item).flatMap fun placed =>
      placed.item.markerSites.filterMap (MarkerSite.diagnostic? file)
  | .module attributes visibility name line (some content) => by
      rw [diagnosticsOfItem, withinItem, List.flatMap_cons, filterMap_markerSites rfl,
        diagnosticsOfItems_eq (childPath modulePath name) content]
      exact congrArg (· ++ _) (List.append_nil _).symm
  | .module attributes visibility name line none => by
      rw [diagnosticsOfItem, withinItem, List.flatMap_singleton, filterMap_markerSites rfl]
      rfl
  | .function attributes visibility signature => by
      rw [diagnosticsOfItem, withinItem, List.flatMap_singleton, filterMap_markerSites rfl]
      rfl
  | .implementation attributes line interface subject => by
      rw [diagnosticsOfItem, withinItem, List.flatMap_singleton, filterMap_markerSites rfl]
      exact (List.append_nil _).symm
  | .named kind attributes visibility name line => by
      rw [diagnosticsOfItem, withinItem, List.flatMap_singleton, filterMap_markerSites rfl]
      exact (List.append_nil _).symm
  | .other attributes => by
      rw [diagnosticsOfItem, withinItem, List.flatMap_singleton]
      rfl

theorem diagnosticsOfItems_eq [SourceParser] (modulePath : String) : ∀ items : List Item,
    diagnosticsOfItems file items = (withinItems modulePath items).flatMap fun placed =>
      placed.item.markerSites.filterMap (MarkerSite.diagnostic? file)
  | [] => by
      rw [diagnosticsOfItems, withinItems]
      rfl
  | first :: rest => by
      rw [diagnosticsOfItems, withinItems, List.flatMap_append,
        diagnosticsOfItem_eq modulePath first, diagnosticsOfItems_eq modulePath rest]

end

/-- The reports of items are those of their places of markers. -/
theorem diagnosticsOfItems_eq_filterMap [SourceParser] (file modulePath : String)
    (items : List Item) :
    diagnosticsOfItems file items =
      (markerSites modulePath items).filterMap (MarkerSite.diagnostic? file) := by
  rw [diagnosticsOfItems_eq modulePath, markerSites, List.filterMap_flatMap]

end Reports

/-! ### Declarations -/

section Declarations

variable {file modulePath : String}

/-- Where no marker is malformed, every marker attribute is a good marker. -/
theorem filterMap_eq_map_goodMarkers {α : Type}
    {read : Attribute → Option (Except MarkerFault α)} {attributes : List Attribute}
    (hclean : ∀ marked ∈ attributes, faultOf (read marked) = none) :
    attributes.filterMap read = (goodMarkers read attributes).map .ok := by
  rw [goodMarkers, List.map_filterMap]
  refine List.filterMap_congr fun marked hmem => ?_
  have hfault := hclean marked hmem
  cases hread : read marked with
  | none => rfl
  | some result =>
      rw [hread] at hfault
      cases result with
      | error fault => cases hfault
      | ok marker => rfl

/-- No marker of an item is malformed. -/
def Source.Item.IsClean [SourceParser] (item : Item) : Prop :=
  ∀ site ∈ item.markerSites, site.fault? = none

theorem Source.Item.IsClean.markers [SourceParser] {item : Item} {title : ItemTitle}
    (hclean : item.IsClean) (htitle : item.title? = some title) :
    item.attributes.filterMap itemMarker? = (goodMarkers itemMarker? item.attributes).map .ok := by
  refine filterMap_eq_map_goodMarkers fun marked hmem => hclean ⟨title, none, marked⟩ ?_
  rw [Item.markerSites, htitle]
  exact List.mem_append_left _ (List.mem_map_of_mem hmem)

theorem declaresParameter [SourceParser] {attributes : List Attribute} {visibility : Visibility}
    {signature : Signature} (hclean : (Item.function attributes visibility signature).IsClean)
    {indexed : Parameter × ℕ} (hmem : indexed ∈ signature.parameters.zipIdx) :
    DeclaresParameter indexed
      { name := indexed.1.name, type := indexed.1.type, position := indexed.2
        markers := goodMarkers parameterMarker? indexed.1.attributes } where
  name := rfl
  type := rfl
  position := rfl
  markers := by
    refine filterMap_eq_map_goodMarkers fun marked hmarked =>
      hclean ⟨⟨.function, signature.name, signature.line⟩, some indexed.1, marked⟩ ?_
    exact List.mem_append_right _ (List.mem_flatMap.mpr
      ⟨indexed.1, List.fst_mem_of_mem_zipIdx hmem, List.mem_map_of_mem hmarked⟩)

/-- The parameters of a function are declared in order. -/
theorem declaresParameters [SourceParser] {attributes : List Attribute} {visibility : Visibility}
    {signature : Signature} (hclean : (Item.function attributes visibility signature).IsClean) :
    List.Forall₂ DeclaresParameter signature.parameters.zipIdx
      (HandlerSignature.ofSignature signature).parameters := by
  rw [HandlerSignature.ofSignature, List.mapIdx_eq_zipIdx_map, List.forall₂_map_right_iff,
    List.forall₂_same]
  exact fun indexed hmem => declaresParameter hclean hmem

mutual

/-- An item without malformed markers is declared, with what it holds, or does not load. -/
theorem declaresItem [SourceParser] (modulePath : String) : ∀ item : Item,
    (∀ placed ∈ withinItem modulePath item, placed.item.IsClean) →
    (item.title? = none ∧ declarationOfItem? file item = none) ∨
      ∃ declaration, declarationOfItem? file item = some declaration ∧
        DeclaresItem file item declaration ∧
        DeclaresItems file item.content declaration.children
  | .module attributes visibility name line (some content) => by
      intro hclean
      rw [withinItem, List.forall_mem_cons] at hclean
      refine Or.inr ⟨_, rfl, ⟨rfl, rfl, hclean.1.markers rfl, .nil⟩, ?_⟩
      exact declaresItems (childPath modulePath name) content hclean.2
  | .module attributes visibility name line none => by
      intro hclean
      rw [withinItem, List.forall_mem_singleton] at hclean
      exact Or.inr ⟨_, rfl, ⟨rfl, rfl, hclean.markers rfl, .nil⟩, .nil⟩
  | .function attributes visibility signature => by
      intro hclean
      rw [withinItem, List.forall_mem_singleton] at hclean
      refine Or.inr ⟨_, rfl, ⟨rfl, rfl, hclean.markers rfl, ?_⟩, .nil⟩
      exact declaresParameters hclean
  | .implementation attributes line interface subject => by
      intro hclean
      rw [withinItem, List.forall_mem_singleton] at hclean
      exact Or.inr ⟨_, rfl, ⟨rfl, rfl, hclean.markers rfl, .nil⟩, .nil⟩
  | .named kind attributes visibility name line => by
      intro hclean
      rw [withinItem, List.forall_mem_singleton] at hclean
      exact Or.inr ⟨_, rfl, ⟨rfl, rfl, hclean.markers rfl, .nil⟩, .nil⟩
  | .other attributes => fun _ => Or.inl ⟨rfl, rfl⟩

theorem declaresItems [SourceParser] (modulePath : String) : ∀ items : List Item,
    (∀ placed ∈ withinItems modulePath items, placed.item.IsClean) →
    DeclaresItems file items (declarationsOfItems file items)
  | [] => by
      intro _
      rw [declarationsOfItems]
      exact .nil
  | first :: rest => by
      intro hclean
      rw [withinItems, List.forall_mem_append] at hclean
      have hrest := declaresItems modulePath rest hclean.2
      rw [declarationsOfItems]
      rcases declaresItem modulePath first hclean.1 with
        ⟨hother, hnone⟩ | ⟨declaration, hsome, hitem, hcontent⟩
      · rw [hnone]
        exact .skip hother hrest
      · rw [hsome]
        exact .declare hitem hcontent hrest

end

end Declarations

/-! ### Converters -/

section Converters

variable {file : String}

/-- The converter that is read off an item in its module. -/
def PlacedItem.converter? (file : String) (placed : PlacedItem) : Option ConverterDeclaration :=
  match placed.item with
  | .implementation _ line (some interface) subject =>
    converterOfImplementation? file placed.modulePath line interface subject
  | _ => none

theorem PlacedItem.converter?_eq_some_iff {placed : PlacedItem} {declared : ConverterDeclaration} :
    placed.converter? file = some declared ↔ placed.DeclaresConverter file declared := by
  constructor
  · intro hconverter
    rw [converter?] at hconverter
    split at hconverter
    · next attributes line interface subject hitem =>
      rw [converterOfImplementation?] at hconverter
      split at hconverter
      · next arguments hlast =>
        split at hconverter
        · next target htypes =>
          cases hconverter
          exact ⟨attributes, line, interface, subject, arguments, target, hitem, hlast, htypes, rfl⟩
        · cases hconverter
      · cases hconverter
    · cases hconverter
  · rintro ⟨attributes, line, interface, subject, arguments, target, hitem, hlast, htypes, rfl⟩
    have hconverter : converterOfImplementation? file placed.modulePath line interface subject =
        some ⟨subject.canonical, target.canonical, placed.modulePath, ⟨file, line⟩⟩ := by
      rw [converterOfImplementation?, hlast]
      simp only [htypes]
    rw [converter?, hitem]
    exact hconverter

mutual

/-- The converters of an item are those on the walk through it. -/
theorem convertersOfItem_eq (modulePath : String) : ∀ item : Item,
    convertersOfItem file modulePath item =
      (withinItem modulePath item).filterMap (PlacedItem.converter? file)
  | .module attributes visibility name line (some content) => by
      rw [convertersOfItem, withinItem, convertersOfItems_eq (childPath modulePath name) content]
      rfl
  | .module attributes visibility name line none => by
      rw [withinItem]
      rfl
  | .function attributes visibility signature => by
      rw [withinItem]
      rfl
  | .implementation attributes line (some interface) subject => by
      rw [convertersOfItem, withinItem, List.filterMap_cons, List.filterMap_nil,
        PlacedItem.converter?]
      dsimp only
      cases converterOfImplementation? file modulePath line interface subject <;> rfl
  | .implementation attributes line none subject => by
      rw [withinItem]
      rfl
  | .named kind attributes visibility name line => by
      rw [withinItem]
      rfl
  | .other attributes => by
      rw [withinItem]
      rfl

theorem convertersOfItems_eq (modulePath : String) : ∀ items : List Item,
    convertersOfItems file modulePath items =
      (withinItems modulePath items).filterMap (PlacedItem.converter? file)
  | [] => by
      rw [convertersOfItems, withinItems]
      rfl
  | first :: rest => by
      rw [convertersOfItems, withinItems, List.filterMap_append,
        convertersOfItem_eq modulePath first, convertersOfItems_eq modulePath rest]

end

theorem filesConverters_filterMap (walked : List PlacedItem) :
    FilesConverters file walked (walked.filterMap (PlacedItem.converter? file)) := by
  induction walked with
  | nil => exact .nil
  | cons first rest ih =>
      rw [List.filterMap_cons]
      cases hconverter : first.converter? file with
      | none =>
          refine .skip (fun declared hdeclared => ?_) ih
          rw [PlacedItem.converter?_eq_some_iff.mpr hdeclared] at hconverter
          cases hconverter
      | some declared => exact .file (PlacedItem.converter?_eq_some_iff.mp hconverter) ih

end Converters

/-! ### Loading -/

/-- A source fails to load just when some marker on the walk over its items is malformed, and then
its reports are one for each of these in order.  Otherwise every item is declared with exactly its
markers, and a converter is filed for every implementation on the walk. -/
theorem loadSource_walks [SourceParser] (modulePath file : String) {text : String}
    {items : List Item} (hitems : SourceParser.file text = .ok items) :
    ((loadSource modulePath file text).isOk = false ↔
        ∃ site ∈ markerSites modulePath items, site.fault? ≠ none) ∧
      (∀ diagnostics, loadSource modulePath file text = .error diagnostics →
        diagnostics =
          (markerSites modulePath items).filterMap (MarkerSite.diagnostic? file)) ∧
      (∀ loaded, loadSource modulePath file text = .ok loaded →
        IsLoadedAs modulePath file items loaded) := by
  have hload : loadSource modulePath file text = loadItems modulePath file items := by
    rw [loadSource, hitems]
  have hreports := diagnosticsOfItems_eq_filterMap file modulePath items
  have hclean : diagnosticsOfItems file items = [] ↔
      ∀ site ∈ markerSites modulePath items, site.fault? = none := by
    rw [hreports, List.filterMap_eq_nil_iff]
    exact forall₂_congr fun site _ => Option.map_eq_none_iff
  rw [hload, loadItems]
  cases hdiagnostics : diagnosticsOfItems file items with
  | nil =>
      have hsites := hclean.mp hdiagnostics
      refine ⟨iff_of_false (fun hfail => nomatch hfail) ?_, ?_, ?_⟩
      · rintro ⟨site, hsite, hfault⟩
        exact hfault (hsites site hsite)
      · rintro diagnostics herror
        cases herror
      · rintro loaded hloaded
        cases hloaded
        refine ⟨rfl, rfl, ?_, ?_⟩
        · exact declaresItems modulePath items fun placed hplaced site hsite =>
            hsites site (List.mem_flatMap.mpr ⟨placed, hplaced, hsite⟩)
        · rw [convertersOfItems_eq modulePath]
          exact filesConverters_filterMap _
  | cons first rest =>
      refine ⟨iff_of_true rfl ?_, fun diagnostics herror => ?_, fun _ hloaded => nomatch hloaded⟩
      · have hfault := hclean.not.mp (hdiagnostics ▸ List.cons_ne_nil first rest)
        push Not at hfault
        exact hfault
      · cases herror
        rw [← hdiagnostics, hreports]

section Standard

attribute [local instance] SourceParser.standard

/-- A module in a module is walked, and a malformed marker on a parameter is reported. -/
theorem loadSource_walks_shelf :
    ∃ items,
      SourceParser.file "mod shelf { #[get] fn book(#[path(7)] id: u8) {} }" = .ok items ∧
      (loadSource "crate" "routes.rs" "mod shelf { #[get] fn book(#[path(7)] id: u8) {} }").isOk =
        false ∧
      ∃ site ∈ markerSites "crate" items, site.fault? ≠ none := by
  obtain ⟨items, hitems⟩ := isOk_eq_true_iff.mp (show
    (SourceParser.file "mod shelf { #[get] fn book(#[path(7)] id: u8) {} }").isOk by
      decide +kernel)
  have hfails : (loadSource "crate" "routes.rs"
      "mod shelf { #[get] fn book(#[path(7)] id: u8) {} }").isOk = false := by decide +kernel
  exact ⟨items, hitems, hfails, (loadSource_walks "crate" "routes.rs" hitems).1.mp hfails⟩

/-- The only implementation of a source is negative, and yet a converter is filed. -/
theorem loadSource_negative_implementation :
    (loadSource "crate::routes" "routes.rs" "impl !Converter<u8> for C {}").toOption.map
        LoadedSource.converters =
      some [⟨"C", "u8", "crate::routes", ⟨"routes.rs", 1⟩⟩] := by
  decide +kernel

end Standard

end MarkedRoutes
