import MarkedRoutes.Analysis
import MarkedRoutes.Proofs.Binding.Soundness

/-!
# Routes come from declared functions

Every route of an analysis serves a function that some source declares: at the
path of the handler, with the parameters of the route in order, and with the
declared asynchrony and return type.  Discovery and compilation walk the same
tree of groups, so the statement is carried from the declarations over the
discovered groups to the compiled ones.
-/

namespace MarkedRoutes

open MarkedRoutes.Source

/-- A function of some signature is declared at a path below a module. -/
inductive DeclaredAt : String → List Declaration → String → HandlerSignature → Prop
  | function {modulePath : String} {declarations : List Declaration} {declaration : Declaration}
      {signature : HandlerSignature} (hmem : declaration ∈ declarations)
      (hsignature : declaration.signature = some signature) :
      DeclaredAt modulePath declarations (childPath modulePath declaration.name) signature
  | inside {modulePath path : String} {declarations : List Declaration} {declaration : Declaration}
      {signature : HandlerSignature} (hmem : declaration ∈ declarations)
      (hinside : DeclaredAt (childPath modulePath declaration.name) declaration.children path
        signature) :
      DeclaredAt modulePath declarations path signature

theorem DeclaredAt.mono {modulePath path : String} {declarations more : List Declaration}
    {signature : HandlerSignature} (hdeclared : DeclaredAt modulePath declarations path signature)
    (hsubset : declarations ⊆ more) : DeclaredAt modulePath more path signature := by
  cases hdeclared with
  | function hmem hsignature => exact .function (hsubset hmem) hsignature
  | inside hmem hinside => exact .inside (hsubset hmem) hinside

/-- Every unit of a set of sources holds the declarations of some items. -/
def SourceSet.IsLoaded [SourceParser] (sources : SourceSet) : Prop :=
  ∀ unit ∈ sources.units, ∃ items, unit.items = declarationsOfItems unit.file items

theorem SourceSet.isLoaded_empty [SourceParser] : SourceSet.empty.IsLoaded :=
  fun _ hmem => absurd hmem List.not_mem_nil

/-- Sources with one more text have its items declared and its converters scanned. -/
theorem SourceSet.addText_ok [SourceParser] {sources extended : SourceSet}
    {modulePath file text : String}
    (hadd : sources.addText modulePath file text = .ok extended) :
    ∃ items, SourceParser.file text = .ok items ∧
      extended = sources.add ⟨⟨modulePath, file, declarationsOfItems file items⟩,
        convertersOfItems file modulePath items⟩ := by
  rw [addText, loadSource] at hadd
  cases hitems : SourceParser.file text with
  | error fault =>
      rw [hitems] at hadd
      cases hadd
  | ok items =>
      rw [hitems] at hadd
      simp only [loadItems] at hadd
      split at hadd
      · cases hadd
        exact ⟨items, rfl, rfl⟩
      · cases hadd

/-- Adding a source text keeps the sources loaded. -/
theorem SourceSet.IsLoaded.addText [SourceParser] {sources extended : SourceSet}
    (hloaded : sources.IsLoaded) {modulePath file text : String}
    (hadd : sources.addText modulePath file text = .ok extended) :
    extended.IsLoaded := by
  obtain ⟨items, -, rfl⟩ := SourceSet.addText_ok hadd
  intro unit hmem
  rcases List.mem_append.mp hmem with hmem | hmem
  · exact hloaded unit hmem
  · rw [List.mem_singleton.mp hmem]
    exact ⟨items, rfl⟩

/-! ### Declared signatures -/

theorem mem_declarationsOfItems [SourceParser] {file : String} {items : List Item}
    {declaration : Declaration} (hmem : declaration ∈ declarationsOfItems file items) :
    ∃ item ∈ items, declarationOfItem? file item = some declaration := by
  induction items with
  | nil =>
      rw [declarationsOfItems] at hmem
      cases hmem
  | cons item items ih =>
      have hrest (hmem : declaration ∈ declarationsOfItems file items) :
          ∃ other ∈ item :: items, declarationOfItem? file other = some declaration := by
        obtain ⟨other, hother, hitem⟩ := ih hmem
        exact ⟨other, List.mem_cons_of_mem item hother, hitem⟩
      rw [declarationsOfItems] at hmem
      cases hitem : declarationOfItem? file item with
      | none =>
          rw [hitem] at hmem
          exact hrest hmem
      | some first =>
          rw [hitem] at hmem
          rcases List.mem_cons.mp hmem with heq | hmem
          · exact ⟨item, List.mem_cons_self, by rw [hitem, heq]⟩
          · exact hrest hmem

/-- A loaded declaration has children that are loaded, and a signature that is loaded. -/
theorem declarationOfItem?_spec [SourceParser] {file : String} {item : Item}
    {declaration : Declaration} (hitem : declarationOfItem? file item = some declaration) :
    (∃ items, declaration.children = declarationsOfItems file items) ∧
      ∀ signature, declaration.signature = some signature →
        ∃ source, signature = HandlerSignature.ofSignature source := by
  have hnil : ([] : List Declaration) = declarationsOfItems file [] := by
    rw [declarationsOfItems]
  cases item with
  | module attributes visibility name line content =>
      cases content with
      | none =>
          rw [declarationOfItem?] at hitem
          cases hitem
          exact ⟨⟨[], hnil⟩, fun signature hsignature => by cases hsignature⟩
      | some items =>
          rw [declarationOfItem?] at hitem
          cases hitem
          exact ⟨⟨items, rfl⟩, fun signature hsignature => by cases hsignature⟩
  | function attributes visibility source =>
      rw [declarationOfItem?] at hitem
      cases hitem
      refine ⟨⟨[], hnil⟩, fun signature hsignature => ⟨source, ?_⟩⟩
      cases hsignature
      rfl
  | implementation attributes line interface subject =>
      rw [declarationOfItem?] at hitem
      cases hitem
      exact ⟨⟨[], hnil⟩, fun signature hsignature => by cases hsignature⟩
  | named kind attributes visibility name line =>
      rw [declarationOfItem?] at hitem
      cases hitem
      exact ⟨⟨[], hnil⟩, fun signature hsignature => by cases hsignature⟩
  | other attributes =>
      rw [declarationOfItem?] at hitem
      cases hitem

/-- What loading declares are signatures as loading builds them. -/
theorem DeclaredAt.exists_ofSignature [SourceParser] {modulePath path file : String}
    {items : List Item} {signature : HandlerSignature}
    (hdeclared : DeclaredAt modulePath (declarationsOfItems file items) path signature) :
    ∃ source, signature = HandlerSignature.ofSignature source := by
  generalize hdeclarations : declarationsOfItems file items = declarations at hdeclared
  induction hdeclared generalizing items with
  | function hmem hsignature =>
      rw [← hdeclarations] at hmem
      obtain ⟨item, -, hitem⟩ := mem_declarationsOfItems hmem
      exact (declarationOfItem?_spec hitem).2 _ hsignature
  | inside hmem _ ih =>
      rw [← hdeclarations] at hmem
      obtain ⟨item, -, hitem⟩ := mem_declarationsOfItems hmem
      obtain ⟨children, hchildren⟩ := (declarationOfItem?_spec hitem).1
      exact ih hchildren.symm

/-! ### Discovered handlers -/

mutual

/-- Every handler of a discovered group: its own, then those of its nested groups. -/
def DiscoveredGroup.allHandlers : DiscoveredGroup → List DiscoveredHandler
  | ⟨_, _, _, handlers, groups, _⟩ => handlers ++ allHandlersOf groups

def allHandlersOf : List DiscoveredGroup → List DiscoveredHandler
  | [] => []
  | first :: rest => first.allHandlers ++ allHandlersOf rest

end

theorem allHandlersOf_append (first second : List DiscoveredGroup) :
    allHandlersOf (first ++ second) = allHandlersOf first ++ allHandlersOf second := by
  induction first with
  | nil => rfl
  | cons group groups ih =>
      rw [List.cons_append, allHandlersOf, ih, allHandlersOf, List.append_assoc]

theorem mem_allHandlersOf_toList {found : Option DiscoveredGroup} {handler : DiscoveredHandler}
    (hmem : handler ∈ allHandlersOf found.toList) :
    ∃ group, found = some group ∧ handler ∈ group.allHandlers := by
  cases found with
  | none => cases hmem
  | some group =>
      simp only [Option.toList_some, allHandlersOf, List.append_nil] at hmem
      exact ⟨group, rfl, hmem⟩

/-- A discovered handler serves the declared function. -/
theorem discoverHandler_spec {survey : Survey} {modulePath base : String}
    {declaration : Declaration} {handler : DiscoveredHandler}
    (hhandler : (discoverHandler survey modulePath base declaration).1 = some handler) :
    handler.path = childPath modulePath declaration.name ∧
      declaration.signature = some handler.signature := by
  rw [discoverHandler] at hhandler
  split at hhandler
  · split at hhandler
    · dsimp only at hhandler
      split_ifs at hhandler
      cases hhandler
      exact ⟨rfl, ‹_›⟩
    · cases hhandler
  · cases hhandler

mutual

/-- The handlers of a discovered group are declared inside the group's module. -/
theorem declaredAt_of_discoverGroup {survey : Survey} {parentModule parentBase : String}
    {group : DiscoveredGroup} {handler : DiscoveredHandler} : ∀ declaration : Declaration,
    (discoverGroup survey parentModule parentBase declaration).1 = some group →
    handler ∈ group.allHandlers →
    DeclaredAt (childPath parentModule declaration.name) declaration.children handler.path
      handler.signature
  | ⟨name, kind, visibility, markers, children, signature, hasBody, location⟩ => by
      intro hgroup hmem
      rw [discoverGroup] at hgroup
      dsimp only at hgroup
      split_ifs at hgroup
      · cases hgroup
        exact declaredAt_of_discoverMembers children hmem

/-- The handlers among the members of a group are declared among the children. -/
theorem declaredAt_of_discoverMembers {survey : Survey} {modulePath base : String}
    {handler : DiscoveredHandler} : ∀ children : List Declaration,
    handler ∈ (discoverMembers survey modulePath base children).1.handlers ++
      allHandlersOf (discoverMembers survey modulePath base children).1.groups →
    DeclaredAt modulePath children handler.path handler.signature
  | [] => by
      intro hmem
      rw [discoverMembers] at hmem
      cases hmem
  | child :: rest => by
      intro hmem
      have hrest : ∀ {survey : Survey},
          handler ∈ (discoverMembers survey modulePath base rest).1.handlers ++
            allHandlersOf (discoverMembers survey modulePath base rest).1.groups →
          DeclaredAt modulePath (child :: rest) handler.path handler.signature := fun hmem =>
        (declaredAt_of_discoverMembers rest hmem).mono (List.subset_cons_self child rest)
      rw [discoverMembers] at hmem
      split_ifs at hmem
      · dsimp only at hmem
        rw [allHandlersOf_append, List.mem_append, List.mem_append] at hmem
        rcases hmem with hmem | hmem | hmem
        · exact hrest (List.mem_append_left _ hmem)
        · obtain ⟨group, hgroup, hmem⟩ := mem_allHandlersOf_toList hmem
          exact .inside List.mem_cons_self (declaredAt_of_discoverGroup child hgroup hmem)
        · exact hrest (List.mem_append_right _ hmem)
      · exact hrest hmem
      · dsimp only at hmem
        rw [List.append_assoc, List.mem_append] at hmem
        rcases hmem with hmem | hmem
        · obtain ⟨hpath, hsignature⟩ := discoverHandler_spec (Option.mem_toList.mp hmem)
          rw [hpath]
          exact .function List.mem_cons_self hsignature
        · exact hrest hmem

end

theorem declaredAt_of_discoverItems {survey : Survey} {modulePath : String}
    {items : List Declaration} {handler : DiscoveredHandler}
    (hmem : handler ∈ allHandlersOf (discoverItems survey modulePath items).1) :
    DeclaredAt modulePath items handler.path handler.signature := by
  induction items generalizing survey with
  | nil => cases hmem
  | cons item items ih =>
      rw [discoverItems] at hmem
      split_ifs at hmem
      · dsimp only at hmem
        rw [allHandlersOf_append, List.mem_append] at hmem
        rcases hmem with hmem | hmem
        · obtain ⟨group, hgroup, hmem⟩ := mem_allHandlersOf_toList hmem
          exact .inside List.mem_cons_self (declaredAt_of_discoverGroup item hgroup hmem)
        · exact (ih hmem).mono (List.subset_cons_self item items)
      · exact (ih hmem).mono (List.subset_cons_self item items)

theorem declaredAt_of_discoverUnits {survey : Survey} {units : List SourceUnit}
    {handler : DiscoveredHandler} (hmem : handler ∈ allHandlersOf (discoverUnits survey units).1) :
    ∃ unit ∈ units, DeclaredAt unit.modulePath unit.items handler.path handler.signature := by
  induction units generalizing survey with
  | nil => cases hmem
  | cons first units ih =>
      rw [discoverUnits] at hmem
      dsimp only at hmem
      rw [allHandlersOf_append, List.mem_append] at hmem
      rcases hmem with hmem | hmem
      · exact ⟨first, List.mem_cons_self, declaredAt_of_discoverItems hmem⟩
      · obtain ⟨unit, hunit, hdeclared⟩ := ih hmem
        exact ⟨unit, List.mem_cons_of_mem first hunit, hdeclared⟩

/-! ### Compiled routes -/

section Compiled

variable {converters : List ConverterDeclaration} {route : Route}

theorem mem_compileHandlers {modulePath : String} {handlers : List DiscoveredHandler}
    (hmem : route ∈ (compileHandlers converters modulePath handlers).1) :
    ∃ handler ∈ handlers, compileHandler converters modulePath handler = .ok route := by
  induction handlers with
  | nil => cases hmem
  | cons handler handlers ih =>
      have hrest : route ∈ (compileHandlers converters modulePath handlers).1 →
          ∃ other ∈ handler :: handlers,
            compileHandler converters modulePath other = .ok route := fun hmem => by
        obtain ⟨other, hother, hcompile⟩ := ih hmem
        exact ⟨other, List.mem_cons_of_mem handler hother, hcompile⟩
      rw [compileHandlers] at hmem
      dsimp only at hmem
      split at hmem
      · rename_i compiled hcompile
        rcases List.mem_cons.mp hmem with heq | hmem
        · exact ⟨handler, List.mem_cons_self, by rw [hcompile, heq]⟩
        · exact hrest hmem
      · exact hrest hmem

mutual

/-- Every compiled route of a group is a compiled handler of the discovered group. -/
theorem mem_allRoutes_compileGroup : ∀ group : DiscoveredGroup,
    route ∈ (compileGroup converters group).1.allRoutes →
    ∃ modulePath, ∃ handler ∈ group.allHandlers,
      compileHandler converters modulePath handler = .ok route
  | ⟨name, modulePath, base, handlers, groups, location⟩ => by
      intro hmem
      rw [compileGroup] at hmem
      rcases List.mem_append.mp hmem with hmem | hmem
      · obtain ⟨handler, hhandler, hcompile⟩ := mem_compileHandlers hmem
        exact ⟨modulePath, handler, List.mem_append_left _ hhandler, hcompile⟩
      · obtain ⟨inner, handler, hhandler, hcompile⟩ := mem_allRoutesOf_compileGroups groups hmem
        exact ⟨inner, handler, List.mem_append_right _ hhandler, hcompile⟩

/-- Every compiled route is a compiled handler of a discovered group. -/
theorem mem_allRoutesOf_compileGroups : ∀ groups : List DiscoveredGroup,
    route ∈ allRoutesOf (compileGroups converters groups).1 →
    ∃ modulePath, ∃ handler ∈ allHandlersOf groups,
      compileHandler converters modulePath handler = .ok route
  | [] => by
      intro hmem
      cases hmem
  | first :: rest => by
      intro hmem
      rw [compileGroups] at hmem
      rcases List.mem_append.mp hmem with hmem | hmem
      · obtain ⟨inner, handler, hhandler, hcompile⟩ := mem_allRoutes_compileGroup first hmem
        exact ⟨inner, handler, List.mem_append_left _ hhandler, hcompile⟩
      · obtain ⟨inner, handler, hhandler, hcompile⟩ := mem_allRoutesOf_compileGroups rest hmem
        exact ⟨inner, handler, List.mem_append_right _ hhandler, hcompile⟩

end

end Compiled

theorem compileGroups_append (converters : List ConverterDeclaration)
    (first second : List DiscoveredGroup) :
    compileGroups converters (first ++ second) =
      ((compileGroups converters first).1 ++ (compileGroups converters second).1,
        (compileGroups converters first).2 ++ (compileGroups converters second).2) := by
  induction first with
  | nil => rfl
  | cons group groups ih =>
      rw [List.cons_append, compileGroups, ih, compileGroups]
      simp only [List.cons_append, List.append_assoc]

theorem analyze_ok {sources : SourceSet} {groups : List RouteGroup}
    (hanalyze : (analyze sources).result = .ok groups) :
    groups = (compileGroups sources.converters (discover sources).1).1 ∧
      (discover sources).2.diagnostics = [] := by
  rw [analyze] at hanalyze
  dsimp only at hanalyze
  split at hanalyze
  · next hclean =>
    cases hanalyze
    exact ⟨rfl, (List.append_eq_nil_iff.mp hclean).1⟩
  · cases hanalyze

/-! ### Served signatures -/

theorem resolveParameter_ok {context : RouteContext} {modulePath : String}
    {converters : List ConverterDeclaration} {bound : BoundParameter}
    {resolved : ResolvedParameter}
    (hresolve : resolveParameter context modulePath converters bound = .ok resolved) :
    ∃ source, valueSource context modulePath converters bound = .ok source ∧
      resolved = ⟨bound.name, bound.boundName, bound.type, bound.position, bound.kind,
        bound.isRequired, source⟩ := by
  rw [resolveParameter] at hresolve
  cases hsource : valueSource context modulePath converters bound with
  | error diagnostic =>
      rw [hsource] at hresolve
      cases hresolve
  | ok source =>
      rw [hsource] at hresolve
      cases hresolve
      exact ⟨source, rfl, rfl⟩

theorem resolveParameters_ok {context : RouteContext} {modulePath : String}
    {converters : List ConverterDeclaration} {bound : List BoundParameter}
    {resolved : List ResolvedParameter}
    (hresolve : resolveParameters context modulePath converters bound = .ok resolved) :
    List.Forall₂ (fun entry parameter =>
      resolveParameter context modulePath converters entry = .ok parameter) bound resolved := by
  induction bound generalizing resolved with
  | nil =>
      cases hresolve
      exact .nil
  | cons entry bound ih =>
      rw [resolveParameters] at hresolve
      cases hfirst : resolveParameter context modulePath converters entry with
      | error diagnostic =>
          rw [hfirst] at hresolve
          cases hresolve
      | ok parameter =>
          cases hrest : resolveParameters context modulePath converters bound with
          | error diagnostic =>
              rw [hfirst, hrest] at hresolve
              cases hresolve
          | ok others =>
              rw [hfirst, hrest] at hresolve
              cases hresolve
              exact .cons hfirst (ih hrest)

theorem resolveParameters_of_forall₂ {context : RouteContext} {modulePath : String}
    {converters : List ConverterDeclaration} {bound : List BoundParameter}
    {resolved : List ResolvedParameter}
    (hresolve : List.Forall₂ (fun entry parameter =>
      resolveParameter context modulePath converters entry = .ok parameter) bound resolved) :
    resolveParameters context modulePath converters bound = .ok resolved := by
  induction hresolve with
  | nil => rfl
  | cons hfirst _ ih =>
      rw [resolveParameters, hfirst, ih]
      rfl

/-- A route serves a signature: it has one parameter for each declared one, in order and
with its name, type and position, and the declared asynchrony and return shape. -/
structure Route.Serves (route : Route) (signature : HandlerSignature) : Prop where
  isAsync_eq : route.isAsync = signature.isAsync
  returns_eq : returnShape signature.output = .ok route.returns
  length_eq : route.parameters.length = signature.parameters.length
  parameter : ∀ (position : ℕ) (declared : DeclaredParameter) (parameter : ResolvedParameter),
    signature.parameters[position]? = some declared →
    route.parameters[position]? = some parameter →
    parameter.position = position ∧ declared.name = some parameter.name ∧
      parameter.type = declared.valueType

/-- What a compiled handler is made of. -/
theorem compileHandler_ok {converters : List ConverterDeclaration} {modulePath : String}
    {handler : DiscoveredHandler} {route : Route}
    (hcompile : compileHandler converters modulePath handler = .ok route) :
    ∃ context bound, bindParameters context handler.signature = .ok bound ∧
      resolveParameters context modulePath converters bound = .ok route.parameters ∧
      returnShape handler.signature.output = .ok route.returns ∧
      route.handlerName = handler.name ∧ route.handlerPath = handler.path ∧
      route.isAsync = handler.signature.isAsync ∧ route.template = .ofText handler.route := by
  rw [compileHandler] at hcompile
  cases hmethod : Method.ofName? handler.method with
  | none =>
      rw [hmethod] at hcompile
      cases hcompile
  | some method =>
      cases hreturns : returnShape handler.signature.output with
      | error found =>
          rw [hmethod, hreturns] at hcompile
          cases hcompile
      | ok returns =>
          rw [hmethod, hreturns] at hcompile
          obtain ⟨bound, hbind, hcompile⟩ := bind_eq_ok_iff.mp hcompile
          obtain ⟨parameters, hresolve, hcompile⟩ := bind_eq_ok_iff.mp hcompile
          cases hcompile
          exact ⟨_, bound, hbind, hresolve, rfl, rfl, rfl, rfl, rfl⟩

/-- A compiled handler serves the function that it was declared as. -/
theorem serves_of_compileHandler [SourceParser] {converters : List ConverterDeclaration}
    {modulePath : String} {handler : DiscoveredHandler} {route : Route} {source : Signature}
    (hsignature : handler.signature = .ofSignature source)
    (hcompile : compileHandler converters modulePath handler = .ok route) :
    route.handlerPath = handler.path ∧ route.Serves handler.signature := by
  obtain ⟨context, bound, hbind, hresolve, hreturns, -, hpath, hasync, -⟩ :=
    compileHandler_ok hcompile
  have hresolved := resolveParameters_ok hresolve
  rw [hsignature] at hbind
  obtain ⟨hlength, hsound⟩ := soundEntry_of_bindParameters hbind
  rw [← hsignature] at hlength hsound
  refine ⟨hpath, hasync, hreturns, ?_, ?_⟩
  · exact hresolved.length_eq.symm.trans hlength
  · intro position declared parameter hdeclared hparameter
    obtain ⟨entry, hentry, hsource⟩ := getElem?_of_forall₂ hresolved hparameter
    obtain ⟨source, -, rfl⟩ := resolveParameter_ok hsource
    have hagrees := hsound position declared entry hdeclared hentry
    exact ⟨hagrees.position_eq, hagrees.name_eq, hagrees.type_eq⟩

/-- Every analysed route serves a declared function at the path of its handler. -/
theorem exists_declaredAt [SourceParser] {sources : SourceSet} {groups : List RouteGroup}
    {route : Route} (hloaded : sources.IsLoaded) (hanalyze : (analyze sources).result = .ok groups)
    (hroute : route ∈ allRoutesOf groups) :
    ∃ unit ∈ sources.units, ∃ signature,
      DeclaredAt unit.modulePath unit.items route.handlerPath signature ∧
        route.Serves signature := by
  rw [(analyze_ok hanalyze).1] at hroute
  obtain ⟨modulePath, handler, hhandler, hcompile⟩ := mem_allRoutesOf_compileGroups _ hroute
  obtain ⟨unit, hunit, hdeclared⟩ := declaredAt_of_discoverUnits hhandler
  obtain ⟨items, hitems⟩ := hloaded unit hunit
  obtain ⟨source, hsignature⟩ := (hitems ▸ hdeclared).exists_ofSignature
  obtain ⟨hpath, hserves⟩ := serves_of_compileHandler hsignature hcompile
  rw [← hpath] at hdeclared
  exact ⟨unit, hunit, handler.signature, hdeclared, hserves⟩

end MarkedRoutes
