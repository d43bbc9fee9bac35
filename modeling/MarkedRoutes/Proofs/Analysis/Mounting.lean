import MarkedRoutes.Proofs.Discovery.Relocation

/-!
# Analysis under a mount

A source whose paths to converters stay inside it can be mounted at any module path.  The
analysis reports problems of the same kinds at the same locations, and on success the groups
differ only in the mount, which stands in front of every module, handler and converter path.
-/

namespace MarkedRoutes

open MarkedRoutes.Source
open MarkedRoutes.Text (ColonFree joinTexts)

/-! ### Paths to converters -/

/-- The paths that the parameters of a function name converters by. -/
def Source.Signature.converterPaths [SourceParser] (signature : Signature) : List String :=
  signature.parameters.flatMap fun parameter =>
    (goodMarkers parameterMarker? parameter.attributes).filterMap ParameterMarker.converter?

mutual

/-- The paths to converters in an item, in the markers of parameters and as the types that
implement converters, each with the number of modules around it. -/
def converterPathsOfItem [SourceParser] (depth : ℕ) : Item → List (ℕ × String)
  | .module _ _ _ _ (some content) => converterPathsOfItems (depth + 1) content
  | .function _ _ signature => signature.converterPaths.map fun written => (depth, written)
  | .implementation _ line (some interface) subject =>
    (converterOfImplementation? "" "" line interface subject).toList.map fun declared =>
      (depth, declared.converter)
  | _ => []

def converterPathsOfItems [SourceParser] (depth : ℕ) : List Item → List (ℕ × String)
  | [] => []
  | first :: rest => converterPathsOfItem depth first ++ converterPathsOfItems depth rest

end

theorem converterPathsOfItem_subset [SourceParser] {depth : ℕ} {item : Item} {items : List Item}
    (hmem : item ∈ items) :
    converterPathsOfItem depth item ⊆ converterPathsOfItems depth items := by
  induction items with
  | nil => cases hmem
  | cons first items ih =>
      rw [converterPathsOfItems]
      rcases List.mem_cons.mp hmem with rfl | hmem
      · exact List.subset_append_left _ _
      · exact List.subset_append_of_subset_right _ (ih hmem)

/-- The paths in the content of inline modules are so many modules deeper. -/
theorem LeadsInto.converterPaths_subset [SourceParser] {items content : List Item}
    {names : List String} (hleads : LeadsInto items names content) (depth : ℕ) :
    converterPathsOfItems (depth + names.length) content ⊆ converterPathsOfItems depth items := by
  induction hleads generalizing depth with
  | here => exact List.Subset.refl _
  | @inside items content inner attributes visibility name line names hmem _ ih =>
      have hmodule := @converterPathsOfItem_subset _ depth _ _ hmem
      rw [converterPathsOfItem] at hmodule
      rw [List.length_cons, Nat.add_comm names.length 1, ← Nat.add_assoc]
      exact List.Subset.trans (ih (depth + 1)) hmodule

theorem LeadsInto.colonFree {items content : List Item} {names : List String}
    (hleads : LeadsInto items names content)
    (hnames : ∀ name ∈ namesOf items, Source.isBareName name = true) :
    ColonFree (names.map String.toList) :=
  List.forall_mem_map.mpr fun name hmem =>
    colon_notMem_of_isBareName (hleads.isBareName hnames name hmem)

/-- An implementation declares the same converter wherever it stands. -/
theorem converterOfImplementation?_spec {file modulePath : String} {line : ℕ}
    {interface : ImplementedInterface} {subject : TypeExpr} {declared : ConverterDeclaration}
    (hdeclared : converterOfImplementation? file modulePath line interface subject = some declared)
    (otherFile otherPath : String) :
    declared.modulePath = modulePath ∧
      ∃ other, converterOfImplementation? otherFile otherPath line interface subject = some other ∧
        other.converter = declared.converter := by
  rw [converterOfImplementation?] at hdeclared ⊢
  split at hdeclared
  · split at hdeclared
    · cases hdeclared
      exact ⟨rfl, _, rfl, rfl⟩
    · cases hdeclared
  · cases hdeclared

/-- The converter of a bound parameter is named by a marker of the function. -/
theorem mem_converterPaths_of_bindParameters [SourceParser] {context : RouteContext}
    {signature : Signature} {bound : List BoundParameter} {entry : BoundParameter}
    {written : String}
    (hbind : bindParameters context (.ofSignature signature) = .ok bound) (hmem : entry ∈ bound)
    (hconverter : entry.converter = some written) : written ∈ signature.converterPaths := by
  obtain ⟨-, candidates, hparameters, hconsistent, hbinds⟩ :=
    bindParameters_ok (positions_increase signature) hbind
  obtain ⟨position, hentry⟩ := List.getElem?_of_mem hmem
  obtain ⟨candidate, hcandidate, hbound⟩ := getElem?_of_forall₂ hbinds.each hentry
  have hmarked : written ∈ candidate.parameter.markers.filterMap ParameterMarker.converter? := by
    rw [(hconsistent candidate (List.mem_of_getElem? hcandidate)).converters, Option.mem_toList]
    rw [hbound.eq_bind] at hconverter
    exact hconverter
  have hdeclared : candidate.parameter ∈ (HandlerSignature.ofSignature signature).parameters := by
    rw [← hparameters]
    exact List.mem_map_of_mem (List.mem_of_getElem? hcandidate)
  obtain ⟨place, hplace, hparameter⟩ := List.mem_mapIdx.mp hdeclared
  refine List.mem_flatMap.mpr ⟨_, List.getElem_mem hplace, ?_⟩
  rwa [← hparameter] at hmarked

/-! ### Moving what is compiled -/

/-- A value source below a mount: a converter that is named by its path moves. -/
def ValueSource.under (mount : String) : ValueSource → ValueSource
  | .namedConverter path => .namedConverter (mount ++ path)
  | source => source

def ResolvedParameter.under (mount : String) (parameter : ResolvedParameter) :
    ResolvedParameter :=
  { parameter with source := parameter.source.under mount }

/-- A route below a mount: its handler moves, and the converters that its parameters name. -/
def Route.under (mount : String) (route : Route) : Route :=
  { route with
    handlerPath := mount ++ route.handlerPath
    parameters := route.parameters.map (ResolvedParameter.under mount) }

mutual

/-- A group of routes below a mount, with everything in it. -/
def RouteGroup.under (mount : String) : RouteGroup → RouteGroup
  | ⟨name, modulePath, base, routes, groups⟩ =>
    ⟨name, mount ++ modulePath, base, routes.map (Route.under mount), groupsUnder mount groups⟩

def groupsUnder (mount : String) : List RouteGroup → List RouteGroup
  | [] => []
  | first :: rest => first.under mount :: groupsUnder mount rest

end

/-- A converter whose implementation stands below a mount. -/
def ConverterDeclaration.under (mount : String) (declared : ConverterDeclaration) :
    ConverterDeclaration :=
  { declared with modulePath := mount ++ declared.modulePath }

/-- A path written in a module means the same under a mount, behind the mount. -/
def ReadsUnder (mount modulePath written : String) : Prop :=
  absolutePath (mount ++ modulePath) written = mount ++ absolutePath modulePath written

section Compilation

variable {mount : String} {converters : List ConverterDeclaration}

mutual

theorem convertersOfItem_under (mount file modulePath : String) : ∀ item : Item,
    convertersOfItem file (mount ++ modulePath) item =
      (convertersOfItem file modulePath item).map (ConverterDeclaration.under mount)
  | .module attributes visibility name line (some content) => by
      rw [convertersOfItem, convertersOfItem, childPath_append]
      exact convertersOfItems_under mount file _ content
  | .module attributes visibility name line none => by
      rw [convertersOfItem.eq_def, convertersOfItem.eq_def]
      rfl
  | .implementation attributes line (some interface) subject => by
      rw [convertersOfItem, convertersOfItem, converterOfImplementation?,
        converterOfImplementation?]
      split
      · split <;> rfl
      · rfl
  | .implementation attributes line none subject => rfl
  | .function attributes visibility signature => rfl
  | .named kind attributes visibility name line => rfl
  | .other attributes => rfl

/-- The converters of a source are those without the mount, below it. -/
theorem convertersOfItems_under (mount file modulePath : String) : ∀ items : List Item,
    convertersOfItems file (mount ++ modulePath) items =
      (convertersOfItems file modulePath items).map (ConverterDeclaration.under mount)
  | [] => rfl
  | first :: rest => by
      rw [convertersOfItems, convertersOfItems, convertersOfItem_under,
        convertersOfItems_under mount file modulePath rest, List.map_append]

end

/-- Below a mount a path finds the same implementations. -/
theorem namedConverter_under {context : RouteContext} {modulePath written : String}
    {parameter : BoundParameter}
    (hconverters : ∀ declared ∈ converters,
      ReadsUnder mount declared.modulePath declared.converter)
    (hwritten : ReadsUnder mount modulePath written) :
    namedConverter context (mount ++ modulePath) parameter written
        (converters.map (ConverterDeclaration.under mount)) =
      (namedConverter context modulePath parameter written converters).map
        (ValueSource.under mount) := by
  have hfound : (converters.map (ConverterDeclaration.under mount)).filter (fun declared =>
        absolutePath declared.modulePath declared.converter =
          absolutePath (mount ++ modulePath) written) =
      (converters.filter fun declared =>
        absolutePath declared.modulePath declared.converter =
          absolutePath modulePath written).map (ConverterDeclaration.under mount) := by
    rw [List.filter_map]
    refine congrArg _ (List.filter_congr fun declared hmem => decide_eq_decide.mpr ?_)
    have hdeclared := hconverters declared hmem
    rw [ReadsUnder] at hdeclared hwritten
    rw [hwritten, ConverterDeclaration.under, hdeclared, String.append_right_inj]
  have htypes : ((fun declared => sameType declared.target parameter.type.base) ∘
      ConverterDeclaration.under mount) =
        fun declared => sameType declared.target parameter.type.base := rfl
  rw [namedConverter, namedConverter, hfound, List.isEmpty_map, List.any_map, List.map_map,
    hwritten, htypes]
  split_ifs <;> rfl

theorem resolveParameter_under {context : RouteContext} {modulePath : String}
    {entry : BoundParameter}
    (hconverters : ∀ declared ∈ converters,
      ReadsUnder mount declared.modulePath declared.converter)
    (hentry : ∀ written, entry.converter = some written → ReadsUnder mount modulePath written) :
    resolveParameter context (mount ++ modulePath)
        (converters.map (ConverterDeclaration.under mount)) entry =
      (resolveParameter context modulePath converters entry).map
        (ResolvedParameter.under mount) := by
  have hsource : valueSource context (mount ++ modulePath)
        (converters.map (ConverterDeclaration.under mount)) entry =
      (valueSource context modulePath converters entry).map (ValueSource.under mount) := by
    rw [valueSource, valueSource]
    split
    · rfl
    · rfl
    · rfl
    · split
      · next written hwritten => exact namedConverter_under hconverters (hentry written hwritten)
      · rfl
  rw [resolveParameter, resolveParameter, hsource]
  cases valueSource context modulePath converters entry <;> rfl

theorem resolveParameters_under {context : RouteContext} {modulePath : String}
    {bound : List BoundParameter}
    (hconverters : ∀ declared ∈ converters,
      ReadsUnder mount declared.modulePath declared.converter)
    (hbound : ∀ entry ∈ bound, ∀ written, entry.converter = some written →
      ReadsUnder mount modulePath written) :
    resolveParameters context (mount ++ modulePath)
        (converters.map (ConverterDeclaration.under mount)) bound =
      (resolveParameters context modulePath converters bound).map
        (List.map (ResolvedParameter.under mount)) := by
  induction bound with
  | nil => rfl
  | cons entry bound ih =>
      obtain ⟨hentry, hrest⟩ := List.forall_mem_cons.mp hbound
      rw [resolveParameters, resolveParameters, resolveParameter_under hconverters hentry, ih hrest]
      cases resolveParameter context modulePath converters entry with
      | error diagnostic => rfl
      | ok parameter => cases resolveParameters context modulePath converters bound <;> rfl

/-- A handler and the path of its module: the function's paths to converters can be mounted. -/
def CanMount [SourceParser] (mount : String) (placed : String × DiscoveredHandler) : Prop :=
  ∃ source : Signature, placed.2.signature = .ofSignature source ∧
    ∀ written ∈ source.converterPaths, ReadsUnder mount placed.1 written

/-- A handler below a mount compiles to the same route, below it, or with the same report. -/
theorem compileHandler_under [SourceParser] {modulePath : String} {handler : DiscoveredHandler}
    (hconverters : ∀ declared ∈ converters,
      ReadsUnder mount declared.modulePath declared.converter)
    (hhandler : CanMount mount (modulePath, handler)) :
    compileHandler (converters.map (ConverterDeclaration.under mount)) (mount ++ modulePath)
        (handler.under mount) =
      (compileHandler converters modulePath handler).map (Route.under mount) := by
  obtain ⟨source, hsource, hpaths⟩ := hhandler
  dsimp only at hsource hpaths
  rw [compileHandler, compileHandler]
  dsimp only [DiscoveredHandler.under]
  cases Method.ofName? handler.method with
  | none => rfl
  | some method =>
      cases returnShape handler.signature.output with
      | error found => rfl
      | ok returns =>
          cases hbind : bindParameters ⟨handler.route, handler.name, handler.location⟩
              handler.signature with
          | error diagnostic => rfl
          | ok bound =>
              rw [hsource] at hbind
              have hbound : ∀ entry ∈ bound, ∀ written, entry.converter = some written →
                  ReadsUnder mount modulePath written := fun entry hmem written hwritten =>
                hpaths written (mem_converterPaths_of_bindParameters hbind hmem hwritten)
              dsimp only
              rw [ok_bind, ok_bind, resolveParameters_under hconverters hbound]
              cases resolveParameters _ modulePath converters bound <;> rfl

theorem compileHandlers_under [SourceParser] {modulePath : String}
    {handlers : List DiscoveredHandler}
    (hconverters : ∀ declared ∈ converters,
      ReadsUnder mount declared.modulePath declared.converter)
    (hhandlers : ∀ handler ∈ handlers, CanMount mount (modulePath, handler)) :
    compileHandlers (converters.map (ConverterDeclaration.under mount)) (mount ++ modulePath)
        (handlers.map (DiscoveredHandler.under mount)) =
      ((compileHandlers converters modulePath handlers).1.map (Route.under mount),
        (compileHandlers converters modulePath handlers).2) := by
  induction handlers with
  | nil => rfl
  | cons handler handlers ih =>
      obtain ⟨hhandler, hrest⟩ := List.forall_mem_cons.mp hhandlers
      rw [List.map_cons, compileHandlers, compileHandlers, ih hrest,
        compileHandler_under hconverters hhandler]
      cases compileHandler converters modulePath handler <;> rfl

mutual

theorem compileGroup_under [SourceParser]
    (hconverters : ∀ declared ∈ converters,
      ReadsUnder mount declared.modulePath declared.converter) :
    ∀ group : DiscoveredGroup, (∀ placed ∈ group.placedHandlers, CanMount mount placed) →
    compileGroup (converters.map (ConverterDeclaration.under mount)) (group.under mount) =
      ((compileGroup converters group).1.under mount, (compileGroup converters group).2)
  | ⟨name, modulePath, base, handlers, groups, location⟩ => by
      intro hplaced
      rw [DiscoveredGroup.placedHandlers, List.forall_mem_append, List.forall_mem_map] at hplaced
      rw [DiscoveredGroup.under, compileGroup, compileGroup,
        compileHandlers_under hconverters hplaced.1,
        compileGroups_under hconverters groups hplaced.2]
      rfl

theorem compileGroups_under [SourceParser]
    (hconverters : ∀ declared ∈ converters,
      ReadsUnder mount declared.modulePath declared.converter) :
    ∀ groups : List DiscoveredGroup, (∀ placed ∈ placedHandlersOf groups, CanMount mount placed) →
    compileGroups (converters.map (ConverterDeclaration.under mount))
        (discoveredUnder mount groups) =
      (groupsUnder mount (compileGroups converters groups).1, (compileGroups converters groups).2)
  | [] => fun _ => rfl
  | first :: rest => by
      intro hplaced
      rw [placedHandlersOf, List.forall_mem_append] at hplaced
      rw [discoveredUnder, compileGroups, compileGroups,
        compileGroup_under hconverters first hplaced.1,
        compileGroups_under hconverters rest hplaced.2]
      rfl

end

end Compilation

/-! ### Sources -/

/-- What an analysis gives below a mount: groups below it, or reports of the same kinds at the
same locations. -/
inductive IsMounted (mount : String) :
    Except (List Diagnostic) (List RouteGroup) → Except (List Diagnostic) (List RouteGroup) → Prop
  | reports {alone mounted : List Diagnostic}
      (hplaces : mounted.map Diagnostic.place = alone.map Diagnostic.place) :
      IsMounted mount (.error alone) (.error mounted)
  | groups (groups : List RouteGroup) :
      IsMounted mount (.ok groups) (.ok (groupsUnder mount groups))

/-- The converters of items can be mounted when their paths stay inside the items. -/
theorem readsUnder_of_convertersOfItems [SourceParser] {around : List String} {items : List Item}
    (haround : around ≠ []) (hcolons : ColonFree (around.map String.toList))
    (hnames : ∀ name ∈ namesOf items, isBareName name = true)
    (hstays : ∀ found ∈ converterPathsOfItems 0 items, StaysInside found.1 found.2)
    (file : String) :
    ∀ declared ∈ convertersOfItems file "" items,
      ReadsUnder (joinTexts "::" around) declared.modulePath declared.converter := by
  intro declared hmem
  obtain ⟨names, content, attributes, line, interface, subject, hleads, himplements, hdeclared⟩ :=
    mem_convertersOfItems_iff.mp hmem
  obtain ⟨hpath, other, hother, hsame⟩ := converterOfImplementation?_spec hdeclared "" ""
  have hfound : (0 + names.length, declared.converter) ∈ converterPathsOfItems 0 items := by
    refine hleads.converterPaths_subset 0 (converterPathsOfItem_subset himplements ?_)
    rw [converterPathsOfItem]
    exact List.mem_map.mpr ⟨other, Option.mem_toList.mpr hother, by rw [hsame]⟩
  rw [Nat.zero_add] at hfound
  rw [hpath]
  exact absolutePath_mounted haround hcolons (hleads.colonFree hnames) (hstays _ hfound)

/-- The handlers of items can be mounted when the paths to converters stay inside the items. -/
theorem canMount_of_discoverItems [SourceParser] {around : List String} {items : List Item}
    (haround : around ≠ []) (hcolons : ColonFree (around.map String.toList))
    (hnames : ∀ name ∈ namesOf items, isBareName name = true)
    (hstays : ∀ found ∈ converterPathsOfItems 0 items, StaysInside found.1 found.2)
    (file : String) :
    ∀ placed ∈ placedHandlersOf (discoverItems .empty "" (declarationsOfItems file items)).1,
      CanMount (joinTexts "::" around) placed := by
  intro placed hmem
  obtain ⟨names, hdeclared, hpath⟩ := standsBelow_of_discoverItems hmem
  obtain ⟨content, attributes, visibility, source, hleads, hfunction, hsource⟩ :=
    hdeclared.exists_leadsInto
  refine ⟨source, hsource, fun written hwritten => ?_⟩
  have hfound : (0 + names.length, written) ∈ converterPathsOfItems 0 items := by
    refine hleads.converterPaths_subset 0 (converterPathsOfItem_subset hfunction ?_)
    rw [converterPathsOfItem]
    exact List.mem_map_of_mem hwritten
  rw [Nat.zero_add] at hfound
  rw [hpath]
  exact absolutePath_mounted haround hcolons (hleads.colonFree hnames) (hstays _ hfound)

/-- What an analysis returns with some groups, unless something is reported. -/
def outcomeOf (groups : List RouteGroup) : List Diagnostic →
    Except (List Diagnostic) (List RouteGroup)
  | [] => .ok groups
  | first :: rest => .error (first :: rest)

theorem result_analyze (sources : SourceSet) :
    (analyze sources).result =
      outcomeOf (compileGroups sources.converters (discover sources).1).1
        ((discover sources).2.diagnostics ++
          (compileGroups sources.converters (discover sources).1).2) := by
  rw [analyze]
  dsimp only
  cases (discover sources).2.diagnostics ++
    (compileGroups sources.converters (discover sources).1).2 <;> rfl

theorem isMounted_outcomeOf {mount : String} {groups : List RouteGroup}
    {alone mounted : List Diagnostic}
    (hplaces : mounted.map Diagnostic.place = alone.map Diagnostic.place) :
    IsMounted mount (outcomeOf groups alone) (outcomeOf (groupsUnder mount groups) mounted) := by
  cases alone with
  | nil =>
      rw [List.map_nil, List.map_eq_nil_iff] at hplaces
      subst hplaces
      exact .groups groups
  | cons first rest =>
      cases mounted with
      | nil => cases hplaces
      | cons other others => exact .reports hplaces

/-- The sources of one file with some items that is mounted at a module path. -/
def SourceSet.ofItems [SourceParser] (modulePath file : String) (items : List Item) : SourceSet :=
  ⟨[⟨modulePath, file, declarationsOfItems file items⟩], convertersOfItems file modulePath items⟩

theorem discover_ofItems [SourceParser] (modulePath file : String) (items : List Item) :
    discover (.ofItems modulePath file items) =
      discoverItems .empty modulePath (declarationsOfItems file items) := by
  rw [discover, SourceSet.ofItems, discoverUnits]
  exact Prod.ext (List.append_nil _) rfl

/-- Items whose paths to converters stay inside them can be mounted. -/
theorem isMounted_analyze_ofItems [SourceParser] {around : List String} {items : List Item}
    (haround : around ≠ []) (hcolons : ColonFree (around.map String.toList))
    (hnames : ∀ name ∈ namesOf items, isBareName name = true)
    (hstays : ∀ found ∈ converterPathsOfItems 0 items, StaysInside found.1 found.2)
    (file : String) :
    IsMounted (joinTexts "::" around) (analyze (.ofItems "" file items)).result
      (analyze (.ofItems (joinTexts "::" around) file items)).result := by
  have hdiscovered := @discoverItems_under (joinTexts "::" around) .empty .empty
    (declarationsOfItems file items) ⟨rfl, rfl⟩ ""
  have hconverters := convertersOfItems_under (joinTexts "::" around) file "" items
  have hcompiled := compileGroups_under
    (readsUnder_of_convertersOfItems haround hcolons hnames hstays file) _
    (canMount_of_discoverItems haround hcolons hnames hstays file)
  rw [String.append_empty] at hdiscovered hconverters
  rw [result_analyze, result_analyze, discover_ofItems, discover_ofItems, hdiscovered.found_eq,
    SourceSet.ofItems, SourceSet.ofItems, hconverters, hcompiled]
  refine isMounted_outcomeOf ?_
  rw [List.map_append, List.map_append, hdiscovered.survey.places_eq]

/-! ### Texts -/

/-- What the analysis of one text gives that is mounted at a module path. -/
def analyzeText [SourceParser] (modulePath file text : String) :
    Except (List Diagnostic) (List RouteGroup) :=
  (SourceSet.empty.addText modulePath file text).bind fun sources => (analyze sources).result

theorem analyzeText_of_error [SourceParser] {modulePath file text : String} {fault : SyntaxFault}
    (hfault : SourceParser.file text = .error fault) :
    analyzeText modulePath file text =
      .error [.unreadable ⟨file, fault.line⟩ fault.message] := by
  rw [analyzeText, SourceSet.addText, loadSource, hfault]
  rfl

theorem analyzeText_of_ok [SourceParser] {modulePath file text : String} {items : List Item}
    (hitems : SourceParser.file text = .ok items) :
    analyzeText modulePath file text =
      match diagnosticsOfItems file items with
      | [] => (analyze (.ofItems modulePath file items)).result
      | reported => .error reported := by
  rw [analyzeText, SourceSet.addText, loadSource, hitems]
  dsimp only
  rw [loadItems]
  cases diagnosticsOfItems file items <;> rfl

/-- A text can be mounted when its paths to converters stay inside it. -/
theorem isMounted_analyzeText [SourceParser] (hbare : DeclaresBareNames) {around : List String}
    {text : String} (haround : around ≠ []) (hcolons : ColonFree (around.map String.toList))
    (hstays : ∀ items, SourceParser.file text = .ok items →
      ∀ found ∈ converterPathsOfItems 0 items, StaysInside found.1 found.2)
    (file : String) :
    IsMounted (joinTexts "::" around) (analyzeText "" file text)
      (analyzeText (joinTexts "::" around) file text) := by
  cases hitems : SourceParser.file text with
  | error fault =>
      rw [analyzeText_of_error hitems, analyzeText_of_error hitems]
      exact .reports rfl
  | ok items =>
      rw [analyzeText_of_ok hitems, analyzeText_of_ok hitems]
      cases diagnosticsOfItems file items with
      | nil =>
          exact isMounted_analyze_ofItems haround hcolons (hbare text items hitems)
            (hstays items hitems) file
      | cons first rest => exact .reports rfl

/-- Two analyses agree but for the mounts: both report problems of the same kinds at the same
locations, or both give the same groups, each below its mount. -/
def AgreeUpToMount (mount other : String)
    (first second : Except (List Diagnostic) (List RouteGroup)) : Prop :=
  ∃ alone, IsMounted mount alone first ∧ IsMounted other alone second

/-- When every path to a converter stays inside a text, its analyses agree wherever it is mounted
below the outermost module. -/
theorem analyzeText_agreeUpToMount [SourceParser] (hbare : DeclaresBareNames) (text : String)
    (hstays : ∀ items, SourceParser.file text = .ok items →
      ∀ found ∈ converterPathsOfItems 0 items, StaysInside found.1 found.2)
    (file : String) (names others : List String) (hnames : ColonFree (names.map String.toList))
    (hothers : ColonFree (others.map String.toList)) :
    AgreeUpToMount (joinTexts "::" ("crate" :: names)) (joinTexts "::" ("crate" :: others))
      (analyzeText (joinTexts "::" ("crate" :: names)) file text)
      (analyzeText (joinTexts "::" ("crate" :: others)) file text) := by
  have hcrate : ':' ∉ "crate".toList := by decide
  exact ⟨analyzeText "" file text,
    isMounted_analyzeText hbare (List.cons_ne_nil _ _)
      (List.forall_mem_cons.mpr ⟨hcrate, hnames⟩) hstays file,
    isMounted_analyzeText hbare (List.cons_ne_nil _ _)
      (List.forall_mem_cons.mpr ⟨hcrate, hothers⟩) hstays file⟩

/-- A group whose handler names a converter in the module around it. -/
def shelvesText : String :=
  "#[route_group] pub mod shelves \x7b #[get(\"/\x7bday\x7d\")] " ++
    "pub fn list(#[convert(super::Day)] day: u8) \x7b\x7d \x7d impl Converter<u8> for Day \x7b\x7d"

section Standard

attribute [local instance] SourceParser.standard

theorem analyzeText_agreeUpToMount_shelves :
    (∀ items, SourceParser.file shelvesText = .ok items →
      ∀ found ∈ converterPathsOfItems 0 items, StaysInside found.1 found.2) ∧
    (analyzeText "crate" "routes.rs" shelvesText).isOk = true ∧
    AgreeUpToMount "crate" "crate::api::v1" (analyzeText "crate" "routes.rs" shelvesText)
      (analyzeText "crate::api::v1" "routes.rs" shelvesText) := by
  have hstays : ∀ items, SourceParser.file shelvesText = .ok items →
      ∀ found ∈ converterPathsOfItems 0 items, StaysInside found.1 found.2 := by
    have hall : ∀ found ∈ converterPathsOfItems 0 
        ((SourceParser.file shelvesText).toOption.getD []), StaysInside found.1 found.2 := by
      decide +kernel
    intro items hitems
    rw [hitems] at hall
    exact hall
  refine ⟨hstays, by decide +kernel, ?_⟩
  have hapi : ColonFree (["api", "v1"].map String.toList) := by
    unfold ColonFree
    decide
  exact analyzeText_agreeUpToMount declaresBareNames_standard shelvesText hstays "routes.rs" []
    ["api", "v1"]
    (List.forall_mem_nil _) hapi

end Standard

end MarkedRoutes
