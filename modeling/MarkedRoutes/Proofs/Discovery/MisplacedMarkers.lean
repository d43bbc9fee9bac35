import MarkedRoutes.Proofs.Discovery.Visits

/-!
# Misplaced group markers

A group marker asks for an inline module.  Wherever discovery comes to another item with such a
marker, the item is reported, as long as it is loaded at all.  An item that carries no name is
not: its markers are never read, and the source is the same without it.
-/

namespace MarkedRoutes

open MarkedRoutes.Source

section Parsing

variable [SourceParser] {texts : List SourceText} {sources : SourceSet} {visit : Visit}
  {file : String}
  {item : Item} {title : ItemTitle} {declaration : Declaration}

def Source.Item.HasGroupMarker (item : Item) : Prop :=
  ∃ marked ∈ item.attributes, marked.name = "route_group"

/-- Whether an item is a module whose content stands in the same file. -/
def Source.Item.isInlineModule : Item → Bool
  | .module _ _ _ _ content => content.isSome
  | _ => false

/-- Why a declaration of some kind that is no inline module cannot be a group. -/
def misplacedReason (kind : DeclarationKind) : InvalidReason :=
  if kind = .module then .groupHasNoBody else .groupIsNoModule kind

/-! ### Declared items -/

/-- An item with a title is declared under it, with its good markers. -/
theorem exists_declarationOfItem (file : String) (htitle : item.title? = some title) :
    ∃ declaration, declarationOfItem? file item = some declaration ∧
      declaration.kind = title.kind ∧ declaration.name = title.name ∧
      declaration.location = ⟨file, title.line⟩ ∧
      declaration.markers = goodMarkers itemMarker? item.attributes ∧
      (declaration.kind = .module → declaration.hasBody = item.isInlineModule) := by
  cases item with
  | module attributes visibility name line content =>
      cases htitle
      rw [declarationOfItem?.eq_def]
      exact ⟨_, rfl, rfl, rfl, rfl, rfl, fun _ => rfl⟩
  | other attributes => cases htitle
  | named kind attributes visibility name line =>
      cases htitle
      rw [declarationOfItem?.eq_def]
      refine ⟨_, rfl, rfl, rfl, rfl, rfl, fun hmodule => ?_⟩
      cases kind <;> cases hmodule
  | _ =>
      cases htitle
      rw [declarationOfItem?.eq_def]
      exact ⟨_, rfl, rfl, rfl, rfl, rfl, fun hmodule => nomatch hmodule⟩

omit [SourceParser] in
theorem isGroup_of_mem {base : String} (hmem : .group base ∈ declaration.markers) :
    declaration.isGroup = true := by
  rw [Declaration.isGroup, Declaration.groupBase?, List.findSome?_isSome_iff]
  exact ⟨_, hmem, rfl⟩

omit [SourceParser] in
/-- A group marker that is not malformed is a good marker. -/
theorem exists_group_mem_goodMarkers (hmarked : item.HasGroupMarker)
    (hclean : malformedMarkers itemMarker? item.attributes = []) :
    ∃ base, .group base ∈ goodMarkers itemMarker? item.attributes := by
  obtain ⟨marked, hmem, hname⟩ := hmarked
  have hread : itemMarker? marked = some ((optionalText marked).map .group) := by
    rw [itemMarker?, if_pos hname]
  cases htext : optionalText marked with
  | error fault =>
      rw [htext] at hread
      have hfault : (marked.name, fault) ∈ malformedMarkers itemMarker? item.attributes := by
        rw [malformedMarkers, List.mem_filterMap]
        exact ⟨marked, hmem, by rw [hread]; rfl⟩
      rw [hclean] at hfault
      cases hfault
  | ok base =>
      rw [htext] at hread
      refine ⟨base, ?_⟩
      rw [goodMarkers, List.mem_filterMap]
      exact ⟨marked, hmem, by rw [hread]; rfl⟩

/-! ### Items without malformed markers -/

theorem malformedMarkers_of_diagnosticsOfItem (htitle : item.title? = some title)
    (hclean : diagnosticsOfItem file item = []) :
    malformedMarkers itemMarker? item.attributes = [] := by
  cases item with
  | other attributes => cases htitle
  | _ =>
      rw [diagnosticsOfItem.eq_def] at hclean
      simp_all [itemMarkerDiagnostics, Item.attributes]

theorem diagnosticsOfItems_content (hclean : diagnosticsOfItem file item = []) :
    diagnosticsOfItems file item.content = [] := by
  cases item with
  | module attributes visibility name line content =>
      rw [diagnosticsOfItem.eq_def] at hclean
      cases content with
      | none => rfl
      | some items => exact (List.append_eq_nil_iff.mp hclean).2
  | _ => rfl

theorem diagnosticsOfItems_append (file : String) (first second : List Item) :
    diagnosticsOfItems file (first ++ second) =
      diagnosticsOfItems file first ++ diagnosticsOfItems file second := by
  induction first with
  | nil => rfl
  | cons item first ih =>
      rw [List.cons_append, diagnosticsOfItems, diagnosticsOfItems, ih, List.append_assoc]

omit [SourceParser] in
theorem convertersOfItems_append (file modulePath : String) (first second : List Item) :
    convertersOfItems file modulePath (first ++ second) =
      convertersOfItems file modulePath first ++ convertersOfItems file modulePath second := by
  induction first with
  | nil => rfl
  | cons item first ih =>
      rw [List.cons_append, convertersOfItems, convertersOfItems, ih, List.append_assoc]

theorem diagnosticsOfItem_of_mem {items : List Item} (hclean : diagnosticsOfItems file items = [])
    (hmem : item ∈ items) : diagnosticsOfItem file item = [] := by
  obtain ⟨earlier, later, rfl⟩ := List.append_of_mem hmem
  rw [diagnosticsOfItems_append, diagnosticsOfItems] at hclean
  exact (List.append_eq_nil_iff.mp (List.append_eq_nil_iff.mp hclean).2).1

/-- Discovery comes to items of sources that load, so none of their markers is malformed. -/
theorem Visit.IsIn.diagnosticsOfItem_eq_nil (hvisit : visit.IsIn texts)
    (hload : ∀ text ∈ texts, text.load.isOk = true) :
    diagnosticsOfItem visit.file visit.item = [] := by
  induction hvisit with
  | @top before after text earlier later item htexts hitems =>
      have htext : text.load.isOk = true := hload text (by simp [htexts])
      have hclean : diagnosticsOfItems text.file (earlier ++ item :: later) = [] := by
        rw [SourceText.load, loadSource, hitems] at htext
        dsimp only at htext
        rw [loadItems] at htext
        split at htext
        · next hclean => exact hclean
        · cases htext
      exact diagnosticsOfItem_of_mem hclean (by simp)
  | inside hvisit hfinds hcontent ih =>
      exact diagnosticsOfItem_of_mem (diagnosticsOfItems_content ih) (by simp [hcontent])

/-! ### Reports -/

omit [SourceParser] in
/-- A group-marked declaration that is no inline module is reported, and no group. -/
theorem discoverGroup_misplaced (survey : Survey) (modulePath base : String)
    (hmisplaced : declaration.kind = .module → declaration.hasBody = false) :
    discoverGroup survey modulePath base declaration =
      (none, survey.invalid declaration (misplacedReason declaration.kind)) := by
  obtain ⟨name, kind, visibility, markers, children, signature, hasBody, location⟩ := declaration
  dsimp only at hmisplaced ⊢
  by_cases hkind : kind = .module
  · rw [discoverGroup, if_neg (not_not.mpr hkind), hmisplaced hkind, misplacedReason,
      if_pos hkind]
    rfl
  · rw [discoverGroup, if_pos hkind, misplacedReason, if_neg hkind]

omit [SourceParser] in
/-- What discovery reports fails the analysis. -/
theorem exists_reports_of_mem {diagnostic : Diagnostic}
    (hmem : diagnostic ∈ (discover sources).2.diagnostics) :
    ∃ reports, (analyze sources).result = .error reports ∧ diagnostic ∈ reports := by
  rw [analyze]
  have hreported : diagnostic ∈ (discover sources).2.diagnostics ++
      (compileGroups sources.converters (discover sources).1).2 := List.mem_append_left _ hmem
  dsimp only
  split
  · next hnone =>
      rw [hnone] at hreported
      cases hreported
  · exact ⟨_, rfl, hreported⟩

theorem SourceSet.IsReadFrom.isOk_load (hread : sources.IsReadFrom texts) :
    ∀ text ∈ texts, text.load.isOk = true := by
  induction hread with
  | empty => exact List.forall_mem_nil _
  | @addText texts text sources extended _ hadd ih =>
      rw [List.forall_mem_append, List.forall_mem_singleton]
      refine ⟨ih, ?_⟩
      rw [← isOk_map sources.add]
      exact isOk_eq_true_iff.mpr ⟨extended, hadd⟩

/-! ### Items that are not loaded -/

omit [SourceParser] in
theorem eq_other_of_title? (hnone : item.title? = none) :
    ∃ attributes, item = .other attributes := by
  cases item with
  | other attributes => exact ⟨attributes, rfl⟩
  | _ => cases hnone

/-- An item without a name may be left out. -/
theorem loadItems_of_title? (hnone : item.title? = none) (modulePath file : String)
    (earlier later : List Item) :
    loadItems modulePath file (earlier ++ item :: later) =
      loadItems modulePath file (earlier ++ later) := by
  obtain ⟨attributes, rfl⟩ := eq_other_of_title? hnone
  have hdiagnostics : diagnosticsOfItems file (earlier ++ .other attributes :: later) =
      diagnosticsOfItems file (earlier ++ later) := by
    simp [diagnosticsOfItems_append, diagnosticsOfItems, diagnosticsOfItem]
  have hdeclarations : declarationsOfItems file (earlier ++ .other attributes :: later) =
      declarationsOfItems file (earlier ++ later) := by
    have hskipped : declarationOfItem? file (.other attributes) = none := by
      rw [declarationOfItem?.eq_def]
    simp [declarationsOfItems_eq_filterMap, hskipped]
  have hconverters : convertersOfItems file modulePath (earlier ++ .other attributes :: later) =
      convertersOfItems file modulePath (earlier ++ later) := by
    simp [convertersOfItems_append, convertersOfItems, convertersOfItem]
  rw [loadItems, loadItems, hdiagnostics, hdeclarations, hconverters]

/-! ### Misplaced markers -/

theorem misplaced_reported (hread : sources.IsReadFrom texts) (hvisit : visit.IsIn texts)
    (hmarked : visit.item.HasGroupMarker) (hmisplaced : visit.item.isInlineModule = false)
    (htitle : visit.item.title? = some title) :
    ∃ reports, (analyze sources).result = .error reports ∧
      .invalidDeclaration ⟨visit.file, title.line⟩ title.name (misplacedReason title.kind) ∈
        reports := by
  have hload := hread.isOk_load
  obtain ⟨declaration, hdeclared, hkind, hname, hlocation, hmarkers, hbody⟩ :=
    exists_declarationOfItem visit.file htitle
  obtain ⟨base, hbase⟩ := exists_group_mem_goodMarkers hmarked
    (malformedMarkers_of_diagnosticsOfItem htitle (hvisit.diagnosticsOfItem_eq_nil hload))
  have hgroup : declaration.isGroup = true := isGroup_of_mem (hmarkers ▸ hbase)
  obtain ⟨hgrows, -⟩ := hvisit.within hload hdeclared hgroup
  rw [discoverGroup_misplaced _ _ _ fun hmodule => (hbody hmodule).trans hmisplaced,
    ← hread.eq_ofTexts] at hgrows
  refine exists_reports_of_mem (hgrows.diagnostics ?_)
  rw [← hkind, ← hname, ← hlocation]
  exact List.mem_append_right _ (List.mem_singleton_self _)

/-- The groups that are discovered are those that are found at the items that discovery comes to.
When such an item carries a group marker and is no inline module, the analysis reports the item if
it has a name.  If it has none, the items around it load the same without it. -/
theorem misplacedMarker_reported (hread : sources.IsReadFrom texts) :
    (∀ group, group ∈ allGroupsOf (discover sources).1 ↔
      ∃ visit declaration, Visit.IsIn texts visit ∧ visit.Finds declaration group) ∧
    ∀ visit, Visit.IsIn texts visit → visit.item.HasGroupMarker →
      visit.item.isInlineModule = false →
      (∀ title, visit.item.title? = some title →
        ∃ reports, (analyze sources).result = .error reports ∧
          .invalidDeclaration ⟨visit.file, title.line⟩ title.name (misplacedReason title.kind) ∈
            reports) ∧
      (visit.item.title? = none → ∀ modulePath,
        loadItems modulePath visit.file (visit.earlier ++ visit.item :: visit.later) =
          loadItems modulePath visit.file (visit.earlier ++ visit.later)) := by
  constructor
  · intro group
    rw [hread.eq_ofTexts]
    exact mem_allGroupsOf_discover_iff hread.isOk_load
  · intro visit hvisit hmarked hmisplaced
    refine ⟨fun title htitle => misplaced_reported hread hvisit hmarked hmisplaced htitle, ?_⟩
    intro hnone modulePath
    exact loadItems_of_title? hnone modulePath visit.file visit.earlier visit.later

end Parsing

/-! ### A struct in a group, and an import -/

section Standard

attribute [local instance] SourceParser.standard

/-- The items of a text that can be read. -/
def SourceText.items (text : SourceText) : List Item :=
  (SourceParser.file text.content).toOption.getD []

theorem SourceText.file_eq (text : SourceText)
    (hread : (SourceParser.file text.content).isOk = true) :
    SourceParser.file text.content = .ok text.items :=
  eq_ok_getD hread []

theorem hasGroupMarker_of_any {item : Item}
    (hany : item.attributes.any (fun marked => marked.name = "route_group") = true) :
    item.HasGroupMarker := by
  obtain ⟨marked, hmem, hname⟩ := List.any_eq_true.mp hany
  exact ⟨marked, hmem, by simpa using hname⟩

/-- Discovery comes to the first item of the only text. -/
theorem Visit.isIn_first (text : SourceText) {item : Item} {later : List Item}
    (hitems : SourceParser.file text.content = .ok (item :: later)) :
    Visit.IsIn [text] ⟨text.file, text.modulePath, "", .empty, [], item, later⟩ := by
  have hsplit : SourceParser.file text.content = .ok ([] ++ item :: later) := hitems
  have htexts : [text] = [] ++ text :: [] := rfl
  have htop := Visit.IsIn.top htexts hsplit
  exact htop

/-- A group that holds an import and a struct, the struct with a marker of its own. -/
def nestedText : SourceText :=
  ⟨"crate::routes", "routes.rs",
    "#[route_group] pub mod a \x7b use x::y; #[route_group] pub struct S; \x7d"⟩

theorem misplacedMarker_reported_nested :
    ∃ reports, (analyze (.ofTexts [nestedText])).result = .error reports ∧
      .invalidDeclaration ⟨"routes.rs", 1⟩ "S" (.groupIsNoModule .record) ∈ reports := by
  obtain ⟨hload, hread, hfinds, hinner, hlengths⟩ : nestedText.load.isOk = true ∧
      (SourceParser.file nestedText.content).isOk = true ∧
      (∀ item ∈ nestedText.items, (declarationOfItem? "routes.rs" item).any
        (fun declaration => declaration.isGroup &&
          (discoverGroup .empty "crate::routes" "" declaration).1.isSome) = true) ∧
      (∀ item ∈ nestedText.items, ∀ inner ∈ item.content.tail,
        inner.attributes.any (fun marked => marked.name = "route_group") = true ∧
          inner.isInlineModule = false ∧
          (inner.title?.map fun title => (title.kind, title.name, title.line)) =
            some (.record, "S", 1)) ∧
      nestedText.items.map (fun item => item.content.length) = [2] := by
    decide +kernel
  have hitems := nestedText.file_eq hread
  obtain ⟨outer, houter, hlength⟩ := List.map_eq_singleton_iff.mp hlengths
  obtain ⟨first, second, hcontent⟩ := List.length_eq_two.mp hlength
  rw [houter] at hitems hfinds hinner
  obtain ⟨declaration, hdeclared, hgroup⟩ :=
    (Option.any_eq_true _ _).mp (hfinds outer List.mem_cons_self)
  rw [Bool.and_eq_true] at hgroup
  obtain ⟨group, hfound⟩ := Option.isSome_iff_exists.mp hgroup.2
  obtain ⟨hmarked, hinline, htitle⟩ := hinner outer List.mem_cons_self second (by simp [hcontent])
  obtain ⟨title, htitle, hshown⟩ := Option.map_eq_some_iff.mp htitle
  have htop : Visit.IsIn [nestedText]
      ⟨"routes.rs", "crate::routes", "", .empty, [], outer, []⟩ :=
    Visit.isIn_first nestedText hitems
  have hvisit : Visit.IsIn [nestedText]
      ⟨"routes.rs", group.modulePath, group.base, _, [first], second, []⟩ :=
    .inside htop ⟨hdeclared, hgroup.1, hfound⟩ hcontent
  obtain ⟨kind, name, line⟩ := title
  cases hshown
  exact ((misplacedMarker_reported
    (SourceSet.isReadFrom_ofTexts (List.forall_mem_singleton.mpr hload))).2 _ hvisit
      (hasGroupMarker_of_any hmarked) hinline).1 _ htitle

/-- An import of a crate with a group marker. -/
def crateText : SourceText := ⟨"crate::routes", "routes.rs", "#[route_group] extern crate a;"⟩

/-- The analysis of a text succeeds although its only item is an import that carries a group
marker. -/
theorem misplacedMarker_unreported :
    (SourceSet.ofTexts [crateText]).IsReadFrom [crateText] ∧
      (∃ visit : Visit, visit.IsIn [crateText] ∧ visit.item.HasGroupMarker ∧
        visit.item.isInlineModule = false) ∧
      (analyze (.ofTexts [crateText])).result.isOk = true := by
  have hload : ∀ text ∈ [crateText], text.load.isOk = true := by
    rw [List.forall_mem_singleton]
    decide +kernel
  have hitems := crateText.file_eq (by decide +kernel)
  have hmarked : ∀ item ∈ crateText.items,
      item.attributes.any (fun marked => marked.name = "route_group") = true ∧
        item.isInlineModule = false := by
    decide +kernel
  obtain ⟨item, hitem⟩ := List.length_eq_one_iff.mp
    (show crateText.items.length = 1 by decide +kernel)
  rw [hitem] at hitems hmarked
  obtain ⟨hmarked, hinline⟩ := List.forall_mem_singleton.mp hmarked
  have hvisit : Visit.IsIn [crateText]
      ⟨"routes.rs", "crate::routes", "", .empty, [], item, []⟩ :=
    Visit.isIn_first crateText hitems
  exact ⟨SourceSet.isReadFrom_ofTexts hload,
    ⟨_, hvisit, hasGroupMarker_of_any hmarked, hinline⟩, by decide +kernel⟩

end Standard

end MarkedRoutes
