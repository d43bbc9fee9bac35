import MarkedRoutes.Proofs.Discovery.Declared
import MarkedRoutes.Proofs.Discovery.Exactness
import MarkedRoutes.Proofs.Source.DeclaredNames

/-!
# Lines of mounted routes

Sources are mounted at a module path when each was read from a text under that path.  The
names that such a text declares are identifiers, and discovery refuses control characters
in bases and paths.  So the module path is the only part of a route's listing that can hold
a line feed.
-/

namespace MarkedRoutes

open MarkedRoutes.Source

/-- Sources read one after another from texts under one module path. -/
inductive SourceSet.IsMountedAt [SourceParser] (modulePath : String) : SourceSet → Prop
  | empty : IsMountedAt modulePath .empty
  | addText {sources extended : SourceSet} {file text : String}
      (hmounted : IsMountedAt modulePath sources)
      (hadd : sources.addText modulePath file text = .ok extended) :
      IsMountedAt modulePath extended

/-! ### Names without line feeds -/

/-- An identifier holds only characters that may stand in one. -/
theorem notMem_of_isBareName {name : String} {c : Char} (hname : isBareName name = true)
    (hstart : Text.isIdentifierStart c = false) (hcontinue : Text.isIdentifierContinue c = false) :
    c ∉ name.toList := by
  unfold isBareName Text.isIdentifierText at hname
  grind

theorem lineFeed_notMem_of_isBareName {name : String} (hname : isBareName name = true) :
    '\n' ∉ name.toList :=
  notMem_of_isBareName hname (by decide) (by decide)

/-- A raw mark adds no line feed. -/
theorem lineFeed_notMem_of_unraw {name : String} (hname : '\n' ∉ (unraw name).toList) :
    '\n' ∉ name.toList := by
  unfold unraw at hname
  grind [String.toList_ofList]

theorem names_subset_namesOf {item : Item} {items : List Item} (hmem : item ∈ items) :
    item.names ⊆ namesOf items := by
  induction items with
  | nil => cases hmem
  | cons first items ih => grind

/-- A declaration with a signature is a function. -/
theorem exists_function_of_signature [SourceParser] {file : String} {item : Item}
    {declaration : Declaration} {signature : HandlerSignature}
    (hitem : declarationOfItem? file item = some declaration)
    (hsignature : declaration.signature = some signature) :
    ∃ attributes visibility source, item = .function attributes visibility source ∧
      signature = .ofSignature source ∧ declaration.name = source.name := by
  cases item with
  | module attributes visibility name line content =>
      rw [declarationOfItem?.eq_def] at hitem
      cases hitem
      cases hsignature
  | function attributes visibility source =>
      cases hitem
      cases hsignature
      exact ⟨attributes, visibility, source, rfl, rfl, rfl⟩
  | other attributes => cases hitem
  | _ =>
      cases hitem
      cases hsignature

/-- A declared function has the name of its item. -/
theorem name_mem_of_signature [SourceParser] {file : String} {item : Item}
    {declaration : Declaration} {signature : HandlerSignature}
    (hitem : declarationOfItem? file item = some declaration)
    (hsignature : declaration.signature = some signature) : declaration.name ∈ item.names := by
  obtain ⟨_, _, source, rfl, -, hname⟩ := exists_function_of_signature hitem hsignature
  rw [hname, Item.names]
  exact List.mem_cons_self

/-- A declaration with children is a module, and its children are declared by its content. -/
theorem content_of_children [SourceParser] {file : String} {item : Item} {declaration : Declaration}
    (hitem : declarationOfItem? file item = some declaration) :
    declaration.children = [] ∨ ∃ content,
      declaration.children = declarationsOfItems file content ∧
        item.names = declaration.name :: namesOf content := by
  cases item with
  | module attributes visibility name line content =>
      rw [declarationOfItem?.eq_def] at hitem
      cases hitem
      cases content with
      | none => exact Or.inl rfl
      | some content => exact Or.inr ⟨content, rfl, by rw [Item.names]⟩
  | other attributes => cases hitem
  | _ =>
      cases hitem
      exact Or.inl rfl

theorem DeclaredAt.ne_nil {modulePath path : String} {declarations : List Declaration}
    {signature : HandlerSignature} (hdeclared : DeclaredAt modulePath declarations path signature) :
    declarations ≠ [] := by
  cases hdeclared with
  | function hmem hsignature => exact List.ne_nil_of_mem hmem
  | inside hmem hinside => exact List.ne_nil_of_mem hmem

/-- The path of a function behind the module path of its source holds no line feed. -/
theorem DeclaredAt.exists_ending [SourceParser] {modulePath path file : String} {items : List Item}
    {signature : HandlerSignature}
    (hdeclared : DeclaredAt modulePath (declarationsOfItems file items) path signature)
    (hnames : ∀ name ∈ namesOf items, isBareName name = true) :
    ∃ ending, path = modulePath ++ ending ∧ '\n' ∉ ending.toList := by
  generalize hdeclarations : declarationsOfItems file items = declarations at hdeclared
  induction hdeclared generalizing items with
  | function hmem hsignature =>
      rw [← hdeclarations] at hmem
      obtain ⟨item, hmem, hitem⟩ := mem_declarationsOfItems hmem
      have hname := hnames _ (names_subset_namesOf hmem (name_mem_of_signature hitem hsignature))
      refine ⟨_, String.append_assoc .., ?_⟩
      simpa using lineFeed_notMem_of_isBareName hname
  | inside hmem hinside ih =>
      rw [← hdeclarations] at hmem
      obtain ⟨item, hmem, hitem⟩ := mem_declarationsOfItems hmem
      have hsubset := names_subset_namesOf hmem
      rcases content_of_children hitem with hnil | ⟨content, hcontent, hitemNames⟩
      · exact absurd hnil hinside.ne_nil
      · rw [hitemNames, List.cons_subset] at hsubset
        obtain ⟨ending, hpath, hending⟩ :=
          ih (fun name hname => hnames name (hsubset.2 hname)) hcontent.symm
        have hname := lineFeed_notMem_of_isBareName (hnames _ hsubset.1)
        refine ⟨_, by rw [hpath, childPath, String.append_assoc, String.append_assoc], ?_⟩
        simp [hname, hending]

/-! ### Mounted sources -/

/-- Every unit of mounted sources declares the items of a text under the module path. -/
theorem SourceSet.IsMountedAt.exists_items [SourceParser] (hbare : DeclaresBareNames)
    {modulePath : String} {sources : SourceSet}
    (hmounted : sources.IsMountedAt modulePath) {unit : SourceUnit}
    (hunit : unit ∈ sources.units) :
    unit.modulePath = modulePath ∧ ∃ items, unit.items = declarationsOfItems unit.file items ∧
      ∀ name ∈ namesOf items, isBareName name = true := by
  induction hmounted with
  | empty => cases hunit
  | @addText sources extended file text hmounted hadd ih =>
      obtain ⟨items, hitems, rfl⟩ := SourceSet.addText_ok hadd
      rcases List.mem_append.mp hunit with hunit | hunit
      · exact ih hunit
      · rw [List.mem_singleton.mp hunit]
        exact ⟨rfl, items, rfl, hbare _ _ hitems⟩

theorem SourceSet.IsMountedAt.isLoaded [SourceParser] {modulePath : String} {sources : SourceSet}
    (hmounted : sources.IsMountedAt modulePath) : sources.IsLoaded := by
  induction hmounted with
  | empty => exact SourceSet.isLoaded_empty
  | addText hmounted hadd ih => exact ih.addText hadd

/-! ### Routes without control characters -/

theorem DiscoveredGroup.allHandlers_eq (group : DiscoveredGroup) :
    group.allHandlers = group.handlers ++ allHandlersOf group.groups := by
  cases group
  rfl

theorem hasControl_of_showsHandlers {place : Place} {declarations : List Declaration}
    {handlers : List DiscoveredHandler}
    (hshows : List.Forall₂ (ShowsHandler place) declarations handlers) :
    ∀ handler ∈ handlers, hasControl handler.route = false := by
  induction hshows with
  | nil => exact List.forall_mem_nil _
  | cons hfirst _ ih => exact List.forall_mem_cons.mpr ⟨hfirst.isPlain, ih⟩

mutual

/-- A discovered group holds no handler with a control character in its route. -/
theorem ShowsGroup.hasControl_eq_false {place : Place} {declaration : Declaration}
    {group : DiscoveredGroup} :
    ShowsGroup place declaration group → ∀ handler ∈ group.allHandlers,
      hasControl handler.route = false
  | .intro _ _ _ _ _ _ _ _ _ handlers groups => by
      intro handler hmem
      rw [DiscoveredGroup.allHandlers_eq] at hmem
      rcases List.mem_append.mp hmem with hmem | hmem
      · exact hasControl_of_showsHandlers handlers handler hmem
      · exact groups.hasControl_eq_false handler hmem

/-- No discovered group holds a handler with a control character in its route. -/
theorem ShowsGroups.hasControl_eq_false {place : Place} {declarations : List Declaration}
    {groups : List DiscoveredGroup} :
    ShowsGroups place declarations groups → ∀ handler ∈ allHandlersOf groups,
      hasControl handler.route = false
  | .nil => fun handler hmem => by cases hmem
  | .cons first rest => by
      intro handler hmem
      rcases List.mem_append.mp hmem with hmem | hmem
      · exact first.hasControl_eq_false handler hmem
      · exact rest.hasControl_eq_false handler hmem

end

theorem hasControl_of_showsUnits {units : List SourceUnit} {found : List (List DiscoveredGroup)}
    (hshows : ShowsUnits units found) :
    ∀ handler ∈ allHandlersOf found.flatten, hasControl handler.route = false := by
  induction hshows with
  | nil => exact List.forall_mem_nil _
  | cons hfirst _ ih =>
      rw [List.flatten_cons, allHandlersOf_append]
      exact List.forall_mem_append.mpr ⟨hfirst.hasControl_eq_false, ih⟩

theorem lineFeed_notMem_of_hasControl {text : String} (hplain : hasControl text = false) :
    '\n' ∉ text.toList := by
  have hcontrol : Text.isControl '\n' = true := by decide
  intro hmem
  rw [hasControl, List.any_eq_false] at hplain
  exact hplain '\n' hmem hcontrol

/-- The path of an analysed route holds no line feed. -/
theorem lineFeed_notMem_template {sources : SourceSet} {groups : List RouteGroup} {route : Route}
    (hanalyze : (analyze sources).result = .ok groups) (hroute : route ∈ allRoutesOf groups) :
    '\n' ∉ route.template.text.toList := by
  obtain ⟨hgroups, hclean⟩ := analyze_ok hanalyze
  obtain ⟨-, found, hfound, hshows⟩ := showsUnits_of_discoverUnits hclean
  rw [hgroups] at hroute
  obtain ⟨modulePath, handler, hhandler, hcompile⟩ := mem_allRoutesOf_compileGroups _ hroute
  obtain ⟨_, _, _, _, _, _, _, _, htemplate⟩ := compileHandler_ok hcompile
  rw [htemplate]
  apply lineFeed_notMem_of_hasControl
  rw [discover, hfound] at hhandler
  exact hasControl_of_showsUnits hshows handler hhandler

/-- The handler of a mounted route stands below the module path, without a line feed behind
it. -/
theorem SourceSet.IsMountedAt.exists_ending [SourceParser] (hbare : DeclaresBareNames)
    {modulePath : String} {sources : SourceSet}
    (hmounted : sources.IsMountedAt modulePath) {groups : List RouteGroup} {route : Route}
    (hanalyze : (analyze sources).result = .ok groups) (hroute : route ∈ allRoutesOf groups) :
    ∃ ending, route.handlerPath = modulePath ++ ending ∧ '\n' ∉ ending.toList := by
  obtain ⟨unit, hunit, signature, hdeclared, -⟩ :=
    exists_declaredAt hmounted.isLoaded hanalyze hroute
  obtain ⟨hpath, items, hitems, hnames⟩ := hmounted.exists_items hbare hunit
  rw [hpath, hitems] at hdeclared
  exact hdeclared.exists_ending hnames

end MarkedRoutes
