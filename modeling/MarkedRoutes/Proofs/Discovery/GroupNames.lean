import MarkedRoutes.Proofs.Discovery.Mounted
import MarkedRoutes.Proofs.Resolution.ScannedConverters

/-!
# Names in analysed groups

Groups, handlers and parameters keep the names under which they are declared.  So the names in
analysed groups are bare identifiers, as they are in the files.
-/

namespace MarkedRoutes

open MarkedRoutes.Source

/-- The names of a route's handler and of its parameters. -/
def Route.names (route : Route) : List String :=
  route.handlerName :: route.parameters.map ResolvedParameter.name

mutual

/-- The names of a group, its handlers and their parameters, at any depth. -/
def RouteGroup.names : RouteGroup → List String
  | ⟨name, _, _, routes, groups⟩ => name :: (routes.flatMap Route.names ++ namesOfGroups groups)

/-- The names of groups, their handlers and parameters, at any depth. -/
def namesOfGroups : List RouteGroup → List String
  | [] => []
  | first :: rest => first.names ++ namesOfGroups rest

end

theorem RouteGroup.name_mem_names (group : RouteGroup) : group.name ∈ group.names := by
  cases group
  rw [names]
  exact List.mem_cons_self

theorem namesOfGroups_append (first second : List RouteGroup) :
    namesOfGroups (first ++ second) = namesOfGroups first ++ namesOfGroups second := by
  induction first with
  | nil => rw [namesOfGroups]; rfl
  | cons group groups ih =>
      rw [List.cons_append, namesOfGroups, namesOfGroups, ih, List.append_assoc]

section

variable [SourceParser] {file : String}

/-! ### Declarations of items -/

/-- A declaration of an item whose names are all bare. -/
def Declaration.IsBare (file : String) (declaration : Declaration) : Prop :=
  ∃ item, declarationOfItem? file item = some declaration ∧
    ∀ name ∈ item.names, isBareName name = true

/-- The declarations of items with bare names. -/
theorem isBare_of_mem_declarationsOfItems {items : List Item}
    (hbare : ∀ name ∈ namesOf items, isBareName name = true) {declaration : Declaration}
    (hmem : declaration ∈ declarationsOfItems file items) : declaration.IsBare file := by
  obtain ⟨item, hmem, hitem⟩ := mem_declarationsOfItems hmem
  exact ⟨item, hitem, fun name hname => hbare name (names_subset_namesOf hmem hname)⟩

namespace Declaration.IsBare

variable {declaration : Declaration}

theorem isBareName_of_module (hbare : declaration.IsBare file)
    (hkind : declaration.kind = .module) : isBareName declaration.name = true := by
  obtain ⟨item, hitem, hnames⟩ := hbare
  apply hnames
  cases item with
  | module attributes visibility name line content =>
      rw [declarationOfItem?.eq_def] at hitem
      cases hitem
      cases content <;> simp [Item.names]
  | named kind attributes visibility name line =>
      cases hitem
      cases kind <;> cases hkind
  | other attributes => cases hitem
  | _ =>
      cases hitem
      cases hkind

/-- The children of a declaration with bare names. -/
theorem isBare_of_mem_children (hbare : declaration.IsBare file) {child : Declaration}
    (hmem : child ∈ declaration.children) : child.IsBare file := by
  obtain ⟨item, hitem, hnames⟩ := hbare
  rcases content_of_children hitem with hnil | ⟨content, hcontent, hitemNames⟩
  · rw [hnil] at hmem
    cases hmem
  · rw [hcontent] at hmem
    refine isBare_of_mem_declarationsOfItems (fun name hname => hnames name ?_) hmem
    rw [hitemNames]
    exact List.mem_cons_of_mem _ hname

/-- A declared function has a bare name, and so have its parameters. -/
theorem exists_names (hbare : declaration.IsBare file) {signature : HandlerSignature}
    (hsignature : declaration.signature = some signature) :
    ∃ source, signature = .ofSignature source ∧ declaration.name = source.name ∧
      ∀ name ∈ source.names, isBareName name = true := by
  obtain ⟨item, hitem, hnames⟩ := hbare
  obtain ⟨_, _, source, rfl, rfl, hname⟩ := exists_function_of_signature hitem hsignature
  rw [Item.names] at hnames
  exact ⟨source, rfl, hname, hnames⟩

end Declaration.IsBare

/-! ### Compiled groups -/

variable {converters : List ConverterDeclaration} {place : Place}

/-- A route that serves a signature has the names of its parameters. -/
theorem Route.Serves.mem_parameterNames {route : Route} {source : Signature}
    (hserves : route.Serves (.ofSignature source)) {parameter : ResolvedParameter}
    (hmem : parameter ∈ route.parameters) : parameter.name ∈ parameterNames source.parameters := by
  obtain ⟨position, hlt, rfl⟩ := List.mem_iff_getElem.mp hmem
  have hlength := hserves.length_eq
  rw [HandlerSignature.ofSignature, List.length_mapIdx] at hlength
  have hsource : position < source.parameters.length := hlength ▸ hlt
  have hdeclared := (hserves.parameter position _ _
    (List.getElem?_eq_getElem (by rwa [HandlerSignature.ofSignature, List.length_mapIdx]))
    (List.getElem?_eq_getElem hlt)).2.1
  simp only [HandlerSignature.ofSignature, List.getElem_mapIdx] at hdeclared
  exact List.mem_filterMap.mpr ⟨_, List.getElem_mem hsource, hdeclared⟩

/-- A handler that shows a declaration with bare names is compiled to a route with bare names. -/
theorem ShowsHandler.isBareName {declaration : Declaration} {handler : DiscoveredHandler}
    (hshows : ShowsHandler place declaration handler) (hbare : declaration.IsBare file)
    {modulePath : String} {route : Route}
    (hcompile : compileHandler converters modulePath handler = .ok route) :
    ∀ name ∈ route.names, isBareName name = true := by
  obtain ⟨source, hsource, hname, hnames⟩ := hbare.exists_names hshows.signature_eq
  obtain ⟨-, hserves⟩ := serves_of_compileHandler hsource hcompile
  rw [hsource] at hserves
  obtain ⟨_, _, _, _, _, hhandler, -⟩ := compileHandler_ok hcompile
  rw [Route.names, List.forall_mem_cons, List.forall_mem_map]
  refine ⟨?_, fun parameter hmem => ?_⟩
  · rw [hhandler, hshows.name_eq, hname]
    exact hnames _ List.mem_cons_self
  · exact hnames _ (List.mem_cons_of_mem _ (hserves.mem_parameterNames hmem))

/-- The handlers of a group are compiled to routes with bare names. -/
theorem isBareName_of_compileHandlers {declarations : List Declaration}
    {handlers : List DiscoveredHandler}
    (hshows : List.Forall₂ (ShowsHandler place) declarations handlers)
    (hbare : ∀ declaration ∈ declarations, declaration.IsBare file) {modulePath : String} :
    ∀ name ∈ (compileHandlers converters modulePath handlers).1.flatMap Route.names,
      isBareName name = true := by
  intro name hname
  obtain ⟨route, hroute, hname⟩ := List.mem_flatMap.mp hname
  obtain ⟨handler, hhandler, hcompile⟩ := mem_compileHandlers hroute
  obtain ⟨position, hhandler⟩ := List.mem_iff_getElem?.mp hhandler
  obtain ⟨declaration, hdeclaration, hshows⟩ := getElem?_of_forall₂ hshows hhandler
  exact hshows.isBareName (hbare _ (List.mem_of_getElem? hdeclaration)) hcompile name hname

mutual

/-- A group that shows a declaration with bare names is compiled to a group with bare names. -/
theorem ShowsGroup.isBareName {place : Place} {declaration : Declaration} :
    ∀ {group : DiscoveredGroup}, ShowsGroup place declaration group → declaration.IsBare file →
      ∀ name ∈ (compileGroup converters group).1.names, isBareName name = true
  | ⟨name, modulePath, base, handlers, groups, location⟩,
      .intro isModule _ _ _ name_eq _ _ _ _ hhandlers hgroups, hbare => by
      have hchildren (test : Declaration → Bool) :
          ∀ child ∈ declaration.children.filter test, child.IsBare file :=
        fun child hmem => hbare.isBare_of_mem_children (List.mem_of_mem_filter hmem)
      rw [compileGroup, RouteGroup.names, List.forall_mem_cons, List.forall_mem_append]
      refine ⟨?_, ?_, ?_⟩
      · have hname : name = declaration.name := name_eq
        rw [hname]
        exact hbare.isBareName_of_module isModule
      · exact isBareName_of_compileHandlers hhandlers (hchildren _)
      · exact hgroups.isBareName (hchildren _)

/-- Groups that show declarations with bare names are compiled to groups with bare names. -/
theorem ShowsGroups.isBareName {place : Place} {declarations : List Declaration} :
    ∀ {groups : List DiscoveredGroup}, ShowsGroups place declarations groups →
      (∀ declaration ∈ declarations, declaration.IsBare file) →
      ∀ name ∈ namesOfGroups (compileGroups converters groups).1, isBareName name = true
  | _, .nil, _ => fun name hname => by
      rw [compileGroups, namesOfGroups] at hname
      cases hname
  | _, .cons first rest, hbare => by
      obtain ⟨hfirst, hrest⟩ := List.forall_mem_cons.mp hbare
      rw [compileGroups, namesOfGroups]
      exact List.forall_mem_append.mpr ⟨first.isBareName hfirst, rest.isBareName hrest⟩

end

end

/-- The groups of units whose declarations have bare names are compiled to groups with bare
names. -/
theorem ShowsUnits.isBareName [SourceParser] {converters : List ConverterDeclaration}
    {units : List SourceUnit} {found : List (List DiscoveredGroup)}
    (hshows : ShowsUnits units found)
    (hbare : ∀ unit ∈ units, ∀ declaration ∈ unit.items, declaration.IsBare unit.file) :
    ∀ name ∈ namesOfGroups (compileGroups converters found.flatten).1,
      isBareName name = true := by
  induction hshows with
  | nil =>
      intro name hname
      rw [List.flatten_nil, compileGroups, namesOfGroups] at hname
      cases hname
  | @cons unit _ _ _ hfirst _ ih =>
      obtain ⟨hunit, hmore⟩ := List.forall_mem_cons.mp hbare
      have hmarked : ∀ declaration ∈ groupsAmong unit.items, declaration.IsBare unit.file :=
        fun declaration hmem => hunit declaration (List.mem_of_mem_filter hmem)
      rw [List.flatten_cons, compileGroups_append, namesOfGroups_append]
      exact List.forall_mem_append.mpr ⟨hfirst.isBareName hmarked, ih hmore⟩

/-! ### Analysed groups -/

/-- The declarations of sources that are read from texts have bare names. -/
theorem SourceSet.IsReadFrom.isBare [SourceParser] (hnames : DeclaresBareNames)
    {texts : List SourceText} {sources : SourceSet} (hread : sources.IsReadFrom texts) :
    ∀ unit ∈ sources.units, ∀ declaration ∈ unit.items, declaration.IsBare unit.file := by
  induction hread with
  | empty => exact List.forall_mem_nil _
  | addText hread hadd ih =>
      obtain ⟨items, hitems, rfl⟩ := SourceSet.addText_ok hadd
      refine List.forall_mem_append.mpr ⟨ih, List.forall_mem_singleton.mpr ?_⟩
      exact fun declaration hmem => isBare_of_mem_declarationsOfItems (hnames _ _ hitems) hmem

/-- The names in analysed groups are bare identifiers. -/
theorem isBareName_of_analyze [SourceParser] (hnames : DeclaresBareNames)
    {texts : List SourceText} {sources : SourceSet} (hread : sources.IsReadFrom texts)
    {groups : List RouteGroup} (hanalyze : (analyze sources).result = .ok groups) :
    ∀ name ∈ namesOfGroups groups, isBareName name = true := by
  obtain ⟨hgroups, hclean⟩ := analyze_ok hanalyze
  obtain ⟨-, found, hfound, hshows⟩ := showsUnits_of_discoverUnits hclean
  rw [hgroups, discover, hfound]
  exact hshows.isBareName (hread.isBare hnames)

end MarkedRoutes
