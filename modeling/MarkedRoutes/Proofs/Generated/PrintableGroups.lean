import MarkedRoutes.Proofs.Discovery.GroupNames
import MarkedRoutes.Proofs.Generated.DispatchRun
import MarkedRoutes.Proofs.Generated.ProgramTokens
import MarkedRoutes.Proofs.Source.Identifiers

/-!
# What can be printed of groups

The functions of a generated program are named by fixed words, names of groups and handlers, and
numbers, its variables by the names of parameters.  So where the groups have bare names, and the
paths that their routes name can be values, the whole program is printed in the language of
generated programs.
-/

namespace MarkedRoutes

open MarkedRoutes.Source

def ValueSource.converterPath? : ValueSource → Option String
  | .namedConverter path => some path
  | _ => none

/-- The paths that a route names: that of its handler, and those of converters. -/
def Route.namedPaths (route : Route) : List String :=
  route.handlerPath :: route.parameters.filterMap fun parameter => parameter.source.converterPath?

section

variable [SourceParser]

/-! ### Dispatch functions -/

/-- A route whose paths, where they have tokens, can be values. -/
def Route.NamesValues (route : Route) : Prop :=
  ∀ path ∈ route.namedPaths, ∀ tokens, pathTokens path = .ok tokens → IsExpression tokens

omit [SourceParser] in
theorem ResolvedParameter.converterPath?_source {parameter : ResolvedParameter} {path : String}
    (hpath : parameter.step.converterPath? = some path) :
    parameter.source.converterPath? = some path := by
  rw [step] at hpath
  cases hkind : parameter.kind <;> rw [hkind] at hpath <;> cases hsource : parameter.source <;>
    simp_all [Step.converterPath?, ValueSource.textConverter, ValueSource.converterPath?]

/-- The dispatch function of a route with bare names. -/
theorem Route.isPrintable_dispatchFunction {route : Route}
    (hnames : ∀ name ∈ route.names, isBareName name = true) (hvalues : route.NamesValues)
    {name : String} (hname : IsIdentifier name) : (route.dispatchFunction name).IsPrintable := by
  have hargument : ∀ parameter ∈ route.parameters, IsIdentifier parameter.argument := by
    intro parameter hmem
    refine isIdentifier_argument (continuesName_of_isBareName (hnames _ ?_))
    exact List.mem_cons_of_mem _ (List.mem_map_of_mem hmem)
  refine ⟨hname, List.forall_mem_map.mpr hargument, ?_, hvalues _ List.mem_cons_self⟩
  intro step hstep
  have hstep : step ∈ dispatchSteps route.parameters := hstep
  rw [dispatchSteps_eq] at hstep
  obtain ⟨parameter, hmem, rfl⟩ := List.mem_map.mp hstep
  rw [mem_evaluationOrder] at hmem
  refine ⟨?_, fun path tokens hpath => ?_⟩
  · rw [target_step]
    exact hargument parameter hmem
  · exact hvalues path (List.mem_cons_of_mem _
      (List.mem_filterMap.mpr ⟨parameter, hmem, parameter.converterPath?_source hpath⟩)) tokens

omit [SourceParser] in
theorem isIdentifier_allocate_dispatch (names : NameTable) {chain handler : String}
    (hchain : ContinuesName chain) (hhandler : isBareName handler = true) :
    IsIdentifier (names.allocate ("dispatch_" ++ chain ++ "_" ++ handler)).1 := by
  have hunderscore : ContinuesName "_" := continuesName_of_isBareName (by decide +kernel)
  obtain ⟨ending, hending, hgiven⟩ :=
    names.exists_continuing ("dispatch_" ++ chain ++ "_" ++ handler)
  rw [hgiven, String.append_assoc, String.append_assoc, String.append_assoc]
  exact isIdentifier_dispatch
    (hchain.append (hunderscore.append ((continuesName_of_isBareName hhandler).append hending)))

omit [SourceParser] in
theorem isIdentifier_allocate_register (names : NameTable) {chain : String}
    (hchain : ContinuesName chain) : IsIdentifier (names.allocate ("register_" ++ chain)).1 := by
  obtain ⟨ending, hending, hgiven⟩ := names.exists_continuing ("register_" ++ chain)
  rw [hgiven, String.append_assoc]
  exact isIdentifier_register (hchain.append hending)

omit [SourceParser] in
theorem isIdentifier_of_nameDispatches {routes : List Route}
    (hnames : ∀ name ∈ routes.flatMap Route.names, isBareName name = true) (names : NameTable)
    {chain : String} (hchain : ContinuesName chain) :
    ∀ named ∈ (nameDispatches names chain routes).1, named.1 ∈ routes ∧ IsIdentifier named.2 := by
  induction routes generalizing names with
  | nil => exact List.forall_mem_nil _
  | cons first routes ih =>
      obtain ⟨hfirst, hmore⟩ := List.forall_mem_append.mp hnames
      have hname := isIdentifier_allocate_dispatch names hchain (hfirst _ List.mem_cons_self)
      refine List.forall_mem_cons.mpr ⟨⟨List.mem_cons_self, hname⟩, fun named hmem => ?_⟩
      obtain ⟨hroute, hname⟩ := ih hmore _ named hmem
      exact ⟨List.mem_cons_of_mem first hroute, hname⟩

/-! ### Groups -/

mutual

/-- The functions of a group can be printed, and so can the call of its registration function. -/
theorem isPrintable_emitGroup (names : NameTable) {chain : String} (hchain : ContinuesName chain) :
    ∀ group : RouteGroup, (∀ name ∈ group.names, isBareName name = true) →
      (∀ route ∈ group.allRoutes, route.NamesValues) →
      IsIdentifier (emitGroup names chain group).1.1 ∧
        ∀ item ∈ (emitGroup names chain group).1.2.items, item.IsPrintable
  | ⟨name, modulePath, base, routes, groups⟩, hnames, hvalues => by
      have hregister := isIdentifier_allocate_register names hchain
      rw [RouteGroup.names, List.forall_mem_cons, List.forall_mem_append] at hnames
      rw [RouteGroup.allRoutes, List.forall_mem_append] at hvalues
      have hnamed := isIdentifier_of_nameDispatches hnames.2.1
        (names.allocate ("register_" ++ chain)).2 hchain
      have hunderscore : ContinuesName "_" := continuesName_of_isBareName (by decide +kernel)
      have hnested := isPrintable_emitGroups
        (nameDispatches (names.allocate ("register_" ++ chain)).2 chain routes).2
        (hchain.append hunderscore) groups hnames.2.2 hvalues.2
      have hdispatches : ∀ item ∈ (nameDispatches (names.allocate ("register_" ++ chain)).2 chain
          routes).1.map dispatchItem, item.IsPrintable := by
        refine List.forall_mem_map.mpr fun named hmem => ?_
        obtain ⟨hroute, hname⟩ := hnamed named hmem
        refine Route.isPrintable_dispatchFunction (fun name hmem => hnames.2.1 name ?_)
          (hvalues.1 _ hroute) hname
        exact List.mem_flatMap.mpr ⟨named.1, hroute, hmem⟩
      have hcallees {nested : List String} (hnested : ∀ name ∈ nested, IsIdentifier name) :
          ∀ statement ∈ (nameDispatches (names.allocate ("register_" ++ chain)).2 chain
            routes).1.map registrationCall ++ nested.map RegistrationCall.group,
          IsIdentifier statement.callee :=
        List.forall_mem_append.mpr ⟨List.forall_mem_map.mpr fun named hmem => (hnamed named hmem).2,
          List.forall_mem_map.mpr hnested⟩
      rw [emitGroup]
      refine ⟨hregister, List.forall_mem_append.mpr ⟨?_, ?_⟩⟩
      · exact List.forall_mem_append.mpr ⟨hdispatches, hnested.2⟩
      · exact List.forall_mem_singleton.mpr ⟨hregister, hcallees hnested.1⟩

/-- The functions of groups can be printed, and so can the calls of their registration
functions. -/
theorem isPrintable_emitGroups (names : NameTable) {start : String} (hstart : ContinuesName start) :
    ∀ groups : List RouteGroup, (∀ name ∈ namesOfGroups groups, isBareName name = true) →
      (∀ route ∈ allRoutesOf groups, route.NamesValues) →
      (∀ name ∈ (emitGroups names start groups).1.1, IsIdentifier name) ∧
        ∀ item ∈ (emitGroups names start groups).1.2.items, item.IsPrintable
  | [], _, _ => ⟨List.forall_mem_nil _, List.forall_mem_nil _⟩
  | first :: rest, hnames, hvalues => by
      rw [namesOfGroups, List.forall_mem_append] at hnames
      rw [allRoutesOf, List.forall_mem_append] at hvalues
      have hfirstName : isBareName first.name = true := hnames.1 _ first.name_mem_names
      have hfirst := isPrintable_emitGroup names
        (hstart.append (continuesName_of_isBareName hfirstName)) first hnames.1 hvalues.1
      have hrest := isPrintable_emitGroups (emitGroup names (start ++ first.name) first).2 hstart
        rest hnames.2 hvalues.2
      rw [emitGroups]
      exact ⟨List.forall_mem_cons.mpr ⟨hfirst.1, hrest.1⟩,
        List.forall_mem_append.mpr ⟨hfirst.2, hrest.2⟩⟩

end

/-- The program of groups with bare names whose routes name values can be printed. -/
theorem isPrintable_ofGroups {entry : String} {groups : List RouteGroup}
    (hentry : IsIdentifier entry) (hnames : ∀ name ∈ namesOfGroups groups, isBareName name = true)
    (hvalues : ∀ route ∈ allRoutesOf groups, route.NamesValues) :
    (GeneratedProgram.ofGroups entry groups).1.IsPrintable := by
  obtain ⟨hcalls, hitems⟩ :=
    isPrintable_emitGroups (.ofName entry) continuesName_empty groups hnames hvalues
  exact ⟨hentry, hcalls, hitems⟩

end

end MarkedRoutes
