import MarkedRoutes.Bookshelf.Types
import MarkedRoutes.Proofs.Discovery.Declared
import MarkedRoutes.Proofs.Generated.EvaluationOrder
import MarkedRoutes.Proofs.Generated.ParameterValue

/-!
# Running dispatch functions

What the dispatch function of a route does when it runs is stated without its
steps: in which order the parameters are evaluated, what each of them is bound
to, which arguments the handler is called with, and what the client is answered.
-/

namespace MarkedRoutes

open MarkedRoutes.Http
open MarkedRoutes.Serving
open MarkedRoutes.Source (Item SourceParser)

variable {κ σ : Type} [HostTypes κ] [DecidableEq κ]

/-! ### Variables -/

theorem argument_inj {first second : ResolvedParameter} :
    first.argument = second.argument ↔ first.name = second.name :=
  String.append_right_inj "arg_"

/-- Parameters with different names have different variables. -/
theorem nodup_arguments {parameters : List ResolvedParameter}
    (hnames : (parameters.map ResolvedParameter.name).Nodup) :
    (parameters.map ResolvedParameter.argument).Nodup := by
  rw [List.Nodup, List.pairwise_map] at hnames ⊢
  exact hnames.imp fun hne heq => hne (argument_inj.mp heq)

theorem lookup_of_mem {α : Type} {entries : List (String × α)} {name : String} {value : α}
    (hnodup : (entries.map Prod.fst).Nodup) (hmem : (name, value) ∈ entries) :
    entries.lookup name = some value := by
  induction entries with
  | nil => cases hmem
  | cons entry entries ih =>
      obtain ⟨key, first⟩ := entry
      rw [List.map_cons, List.nodup_cons] at hnodup
      rcases List.mem_cons.mp hmem with heq | hmem
      · cases heq
        exact List.lookup_cons_self
      · have hne : name ≠ key := fun heq =>
          hnodup.1 (heq ▸ List.mem_map.mpr ⟨(name, value), hmem, rfl⟩)
        rw [List.lookup_cons, beq_eq_false_iff_ne.mpr hne]
        exact ih hnodup.2 hmem

/-- The step of a parameter binds the parameter's variable. -/
theorem target_step (parameter : ResolvedParameter) :
    parameter.step.target = parameter.argument := by
  rw [ResolvedParameter.step]
  cases parameter.kind <;> rfl

/-- What becomes of the parameters of a handler: each by the type at its position. -/
def Becomes (surroundings : Surroundings κ σ) (handler : Handler κ σ) (request : Request)
    (parameter : ResolvedParameter) (outcome : Except DispatchFault (Argument κ)) : Prop :=
  ∃ type, handler.parameterTypes[parameter.position]? = some type ∧
    Evaluates surroundings request parameter type outcome

section Steps

variable {surroundings : Surroundings κ σ} {handler : Handler κ σ} {request : Request}
  {types : List (String × ParameterType κ)}

/-- One step of a run: the parameter's variable has the type at its position, so the step
gives what becomes of the parameter. -/
theorem becomes_of_lookup {parameter : ResolvedParameter} {type : ParameterType κ}
    (hlookup : types.lookup parameter.argument = some type)
    (htype : handler.parameterTypes[parameter.position]? = some type)
    (haccepts : Accepts surroundings parameter type) :
    ∃ outcome, Becomes surroundings handler request parameter outcome ∧
      (fitting (types.lookup parameter.step.target)).bind
        (parameter.step.value surroundings request) = outcome.mapError Stop.fault := by
  obtain ⟨outcome, hevaluates, hvalue⟩ := value_step haccepts request
  refine ⟨outcome, ⟨type, htype, hevaluates⟩, ?_⟩
  rw [target_step, hlookup]
  exact hvalue

/-- Steps run until the first parameter that cannot be bound, and bind every one before it. -/
theorem runSteps_map_step {parameters : List ResolvedParameter} (bindings : Bindings κ)
    (hparameters : ∀ parameter ∈ parameters, ∃ outcome,
      Becomes surroundings handler request parameter outcome ∧
        (fitting (types.lookup parameter.step.target)).bind
          (parameter.step.value surroundings request) = outcome.mapError Stop.fault) :
    (∃ entries : Bindings κ, List.Forall₂ (fun parameter entry =>
        entry.1 = parameter.argument ∧
          Becomes surroundings handler request parameter (.ok entry.2)) parameters entries ∧
      runSteps surroundings types request bindings (parameters.map ResolvedParameter.step) =
        (parameters.map ResolvedParameter.step, .ok (entries.reverse ++ bindings))) ∨
    ∃ before parameter after fault, parameters = before ++ parameter :: after ∧
      (∀ earlier ∈ before, ∃ argument,
        Becomes surroundings handler request earlier (.ok argument)) ∧
      Becomes surroundings handler request parameter (.error fault) ∧
      runSteps surroundings types request bindings (parameters.map ResolvedParameter.step) =
        ((before ++ [parameter]).map ResolvedParameter.step, .error (.fault fault)) := by
  induction parameters generalizing bindings with
  | nil => exact Or.inl ⟨[], .nil, rfl⟩
  | cons parameter parameters ih =>
      obtain ⟨hfirst, hrest⟩ := List.forall_mem_cons.mp hparameters
      obtain ⟨outcome, hbecomes, hvalue⟩ := hfirst
      cases outcome with
      | error fault =>
          refine Or.inr ⟨[], parameter, parameters, fault, rfl,
            fun earlier hmem => absurd hmem List.not_mem_nil, hbecomes, ?_⟩
          rw [List.map_cons, runSteps, hvalue]
          rfl
      | ok argument =>
          have hrun : runSteps surroundings types request bindings
              ((parameter :: parameters).map ResolvedParameter.step) =
              (parameter.step :: (runSteps surroundings types request
                ((parameter.argument, argument) :: bindings)
                (parameters.map ResolvedParameter.step)).1,
              (runSteps surroundings types request ((parameter.argument, argument) :: bindings)
                (parameters.map ResolvedParameter.step)).2) := by
            rw [List.map_cons, runSteps, hvalue, ← target_step]
            rfl
          rw [hrun]
          rcases ih ((parameter.argument, argument) :: bindings) hrest with
            ⟨entries, hentries, hbound⟩ | ⟨before, failing, after, fault, rfl, hbefore, hfault,
              hstop⟩
          · refine Or.inl ⟨(parameter.argument, argument) :: entries,
              .cons ⟨rfl, hbecomes⟩ hentries, ?_⟩
            rw [hbound, List.reverse_cons, List.append_assoc]
            rfl
          · refine Or.inr ⟨parameter :: before, failing, after, fault, rfl, ?_, hfault, ?_⟩
            · exact List.forall_mem_cons.mpr ⟨⟨argument, hbecomes⟩, hbefore⟩
            · rw [hstop]
              rfl

end Steps

/-! ### Runs -/

def ReturnShape.Admits (shape : ReturnShape) : Except HandlerError Outcome → Prop
  | .error _ => shape.isFallible = true
  | .ok .unit => shape.kind = .unit
  | .ok (.value _) => shape.kind = .value
  | .ok (.reply _) => shape.kind = .reply

/-- What the client is answered when the handler has returned. -/
def answer : Except HandlerError Outcome → Except DispatchFault Response
  | .error error => .error (.handler error)
  | .ok .unit => .ok respondEmpty
  | .ok (.value returned) => respond returned
  | .ok (.reply returned) => respondReply returned

theorem response_eq_answer {shape : ReturnShape} {returned : Except HandlerError Outcome}
    (hadmits : shape.Admits returned) :
    shape.response returned = (answer returned).mapError Stop.fault := by
  obtain ⟨kind, isFallible⟩ := shape
  rcases returned with error | (_ | value | reply)
  · rfl
  · cases hadmits
    rfl
  · cases hadmits
    rfl
  · cases hadmits
    rfl

/-- A handler stands at the path that a route names, and a program that calls it as the
route's dispatch function does has the right types. -/
structure Fits (surroundings : Surroundings κ σ) (route : Route) (handler : Handler κ σ) :
    Prop where
  handler_eq : surroundings.handler? route.handlerPath = some handler
  length_eq : handler.parameterTypes.length = route.parameters.length
  accepts : ∀ parameter ∈ route.parameters, ∀ type,
    handler.parameterTypes[parameter.position]? = some type →
    Accepts surroundings parameter type
  isAsync_eq : handler.isAsync = route.isAsync
  isFallible_eq : handler.isFallible = route.returns.isFallible
  returns : ∀ arguments state, route.returns.Admits ((handler.call arguments).run state).1

/-- What the dispatch function of a route does: it evaluates the parameters in order up to the
first that fails, and nothing else happens then; or it evaluates every parameter once, calls
the handler once with the arguments by position, and answers by what the handler returns. -/
inductive Dispatches (surroundings : Surroundings κ σ) (route : Route) (handler : Handler κ σ)
    (request : Request) (state : σ) : Run κ σ → Prop
  | fails {before after : List ResolvedParameter} {parameter : ResolvedParameter}
      {fault : DispatchFault}
      (horder : IsEvaluationOrder route.parameters (before ++ parameter :: after))
      (hbefore : ∀ earlier ∈ before, ∃ argument,
        Becomes surroundings handler request earlier (.ok argument))
      (hfault : Becomes surroundings handler request parameter (.error fault)) :
      Dispatches surroundings route handler request state
        ⟨((before ++ [parameter]).map ResolvedParameter.step).map Action.evaluate,
          .error (.fault fault), state⟩
  | answers {order : List ResolvedParameter} {arguments : List (Argument κ)}
      {returned : Except HandlerError Outcome} {final : σ}
      (horder : IsEvaluationOrder route.parameters order)
      (hlength : arguments.length = route.parameters.length)
      (harguments : ∀ parameter ∈ route.parameters, ∃ argument,
        arguments[parameter.position]? = some argument ∧
          Becomes surroundings handler request parameter (.ok argument))
      (hcall : (handler.call arguments).run state = (returned, final))
      (hadmits : route.returns.Admits returned) :
      Dispatches surroundings route handler request state
        ⟨(order.map ResolvedParameter.step).map Action.evaluate ++
            [.call route.handlerPath arguments route.isAsync],
          (answer returned).mapError Stop.fault, final⟩

omit [DecidableEq κ] in
/-- The variables of a handler's parameters have the types of the handler's positions. -/
theorem lookup_variableTypes {route : Route} {handler : Handler κ σ} {parameter : ResolvedParameter}
    {type : ParameterType κ} (name : String)
    (hnames : (route.parameters.map ResolvedParameter.name).Nodup)
    (hlength : handler.parameterTypes.length = route.parameters.length)
    (hparameter : route.parameters[parameter.position]? = some parameter)
    (htype : handler.parameterTypes[parameter.position]? = some type) :
    ((route.dispatchFunction name).variableTypes handler).lookup parameter.argument =
      some type := by
  apply lookup_of_mem
  · rw [DispatchFunction.variableTypes, List.map_fst_zip]
    · exact nodup_arguments hnames
    · exact Nat.le_of_eq ((List.length_map _).trans hlength.symm)
  · refine List.mem_iff_getElem?.mpr ⟨parameter.position, ?_⟩
    rw [DispatchFunction.variableTypes, Route.dispatchFunction, List.getElem?_zip_eq_some,
      List.getElem?_map, hparameter]
    exact ⟨rfl, htype⟩

theorem names_of_entries {surroundings : Surroundings κ σ} {handler : Handler κ σ}
    {request : Request} {parameters : List ResolvedParameter} {entries : Bindings κ}
    (hentries : List.Forall₂ (fun parameter entry => entry.1 = parameter.argument ∧
      Becomes surroundings handler request parameter (.ok entry.2)) parameters entries) :
    entries.map Prod.fst = parameters.map ResolvedParameter.argument := by
  induction hentries with
  | nil => rfl
  | cons hentry _ ih => rw [List.map_cons, List.map_cons, ih, hentry.1]

/-- Variables that are all bound are all found. -/
theorem mapM_lookup {surroundings : Surroundings κ σ} {handler : Handler κ σ} {request : Request}
    {parameters : List ResolvedParameter} {bindings : Bindings κ}
    (hbound : ∀ parameter ∈ parameters, ∃ argument,
      bindings.lookup parameter.argument = some argument ∧
        Becomes surroundings handler request parameter (.ok argument)) :
    ∃ arguments, ((parameters.map ResolvedParameter.argument).mapM fun name =>
        fitting (bindings.lookup name)) = .ok arguments ∧
      List.Forall₂ (fun parameter argument =>
        Becomes surroundings handler request parameter (.ok argument)) parameters arguments := by
  induction parameters with
  | nil => exact ⟨[], rfl, .nil⟩
  | cons parameter parameters ih =>
      obtain ⟨⟨argument, hlookup, hbecomes⟩, hrest⟩ := List.forall_mem_cons.mp hbound
      obtain ⟨arguments, hmapM, harguments⟩ := ih hrest
      refine ⟨argument :: arguments, ?_, .cons hbecomes harguments⟩
      rw [List.map_cons, List.mapM_cons, hlookup, hmapM]
      rfl

/-- The variables that the steps bind are the arguments of the handler. -/
theorem boundArguments_eq {surroundings : Surroundings κ σ} {route : Route}
    {handler : Handler κ σ} {request : Request} {entries : Bindings κ} (name : String)
    (hnames : (route.parameters.map ResolvedParameter.name).Nodup)
    (hperm : (evaluationOrder route.parameters).Perm route.parameters)
    (hentries : List.Forall₂ (fun parameter entry => entry.1 = parameter.argument ∧
      Becomes surroundings handler request parameter (.ok entry.2))
      (evaluationOrder route.parameters) entries) :
    ∃ arguments, (route.dispatchFunction name).boundArguments (entries.reverse ++ []) =
        .ok arguments ∧
      List.Forall₂ (fun parameter argument =>
        Becomes surroundings handler request parameter (.ok argument))
        route.parameters arguments := by
  apply mapM_lookup
  intro parameter hmem
  obtain ⟨position, hposition⟩ := List.mem_iff_getElem?.mp (hperm.mem_iff.mpr hmem)
  obtain ⟨⟨bound, argument⟩, hentry, hname, hbecomes⟩ :=
    getElem?_of_forall₂ hentries.flip hposition
  refine ⟨argument, lookup_of_mem ?_ ?_, hbecomes⟩
  · rw [List.append_nil, List.map_reverse, List.nodup_reverse, names_of_entries hentries]
    exact (hperm.map _).nodup_iff.mpr (nodup_arguments hnames)
  · rw [List.append_nil, List.mem_reverse, ← hname]
    exact List.mem_of_getElem? hentry

theorem pairwise_position {parameters : List ResolvedParameter}
    (hpositions : ∀ (position : ℕ) (parameter : ResolvedParameter),
      parameters[position]? = some parameter → parameter.position = position) :
    parameters.Pairwise fun left right => left.position < right.position := by
  rw [List.pairwise_iff_getElem]
  intro first second hfirst hsecond hlt
  rw [hpositions first _ (List.getElem?_eq_getElem hfirst),
    hpositions second _ (List.getElem?_eq_getElem hsecond)]
  exact hlt

omit [DecidableEq κ] in
/-- The dispatch function of a route finds a handler that fits, and calls it by its type. -/
theorem Fits.handler_dispatchFunction {surroundings : Surroundings κ σ} {route : Route}
    {handler : Handler κ σ} (hfits : Fits surroundings route handler) (name : String) :
    (route.dispatchFunction name).handler surroundings = .ok handler := by
  have hfound : surroundings.handler? (route.dispatchFunction name).handlerPath = some handler :=
    hfits.handler_eq
  have hcalls : (route.dispatchFunction name).calls handler = true := by
    rw [DispatchFunction.calls, Route.dispatchFunction, List.length_map, hfits.length_eq,
      hfits.isAsync_eq, hfits.isFallible_eq]
    simp only [BEq.rfl, Bool.and_self]
  rw [DispatchFunction.handler, hfound]
  exact if_pos hcalls

/-- The step of every parameter gives what becomes of the parameter. -/
theorem Fits.becomes {surroundings : Surroundings κ σ} {route : Route} {handler : Handler κ σ}
    (hfits : Fits surroundings route handler)
    (hpositions : ∀ (position : ℕ) (parameter : ResolvedParameter),
      route.parameters[position]? = some parameter → parameter.position = position)
    (hnames : (route.parameters.map ResolvedParameter.name).Nodup) (request : Request)
    (name : String) (parameter : ResolvedParameter) (hmem : parameter ∈ route.parameters) :
    ∃ outcome, Becomes surroundings handler request parameter outcome ∧
      (fitting (((route.dispatchFunction name).variableTypes handler).lookup
        parameter.step.target)).bind (parameter.step.value surroundings request) =
        outcome.mapError Stop.fault := by
  obtain ⟨position, hposition⟩ := List.mem_iff_getElem?.mp hmem
  obtain rfl := hpositions position parameter hposition
  have hlt : parameter.position < handler.parameterTypes.length := by
    rw [hfits.length_eq]
    exact (List.getElem?_eq_some_iff.mp hposition).1
  have htype := List.getElem?_eq_getElem hlt
  have hlookup := lookup_variableTypes name hnames hfits.length_eq hposition htype
  exact becomes_of_lookup hlookup htype (hfits.accepts parameter hmem _ htype)

/-- The dispatch function of a route with numbered and differently named parameters runs as
it should with every handler that fits. -/
theorem dispatches_of_fits {surroundings : Surroundings κ σ} {route : Route}
    {handler : Handler κ σ}
    (hpositions : ∀ (position : ℕ) (parameter : ResolvedParameter),
      route.parameters[position]? = some parameter → parameter.position = position)
    (hnames : (route.parameters.map ResolvedParameter.name).Nodup)
    (hfits : Fits surroundings route handler) (request : Request) (state : σ) (name : String) :
    Dispatches surroundings route handler request state
      ((route.dispatchFunction name).run surroundings request state) := by
  have horder := isEvaluationOrder (pairwise_position hpositions)
  have hparameters := fun parameter hmem =>
    hfits.becomes hpositions hnames request name parameter (horder.perm.mem_iff.mp hmem)
  have hsteps : (route.dispatchFunction name).steps =
      (evaluationOrder route.parameters).map ResolvedParameter.step :=
    dispatchSteps_eq route.parameters
  rw [DispatchFunction.run, hfits.handler_dispatchFunction name]
  dsimp only
  rw [hsteps]
  rcases runSteps_map_step [] hparameters with
    ⟨entries, hentries, hrun⟩ | ⟨before, parameter, after, fault, hsplit, hbefore, hfault, hrun⟩
  · obtain ⟨arguments, hbound, harguments⟩ := boundArguments_eq name hnames horder.perm hentries
    rw [hrun]
    dsimp only [Except.bind]
    rw [hbound]
    have hadmits := hfits.returns arguments state
    cases hcall : (handler.call arguments).run state with
    | mk returned final =>
        rw [hcall] at hadmits
        have hresponse : (route.dispatchFunction name).returns.response returned =
            (answer returned).mapError Stop.fault := response_eq_answer hadmits
        simp only [hcall, hresponse]
        refine .answers horder harguments.length_eq.symm ?_ hcall hadmits
        intro parameter hmem
        obtain ⟨position, hposition⟩ := List.mem_iff_getElem?.mp hmem
        obtain rfl := hpositions position parameter hposition
        exact getElem?_of_forall₂ harguments.flip hposition
  · rw [hrun]
    rw [hsplit] at horder
    exact .fails horder hbefore hfault

/-- Every route of an analysis serves a declared function, and when its parameters have
different names its dispatch function runs as it should with every handler that fits. -/
theorem dispatches_of_analyze [SourceParser] {sources : SourceSet} {groups : List RouteGroup}
    {route : Route} {surroundings : Surroundings κ σ} {handler : Handler κ σ}
    (hloaded : sources.IsLoaded) (hanalyze : (analyze sources).result = .ok groups)
    (hroute : route ∈ allRoutesOf groups)
    (hnames : (route.parameters.map ResolvedParameter.name).Nodup)
    (hfits : Fits surroundings route handler) (request : Request) (state : σ) (name : String) :
    (∃ unit ∈ sources.units, ∃ signature,
      DeclaredAt unit.modulePath unit.items route.handlerPath signature ∧
        route.Serves signature) ∧
      Dispatches surroundings route handler request state
        ((route.dispatchFunction name).run surroundings request state) := by
  obtain ⟨unit, hunit, signature, hdeclared, hserves⟩ := exists_declaredAt hloaded hanalyze hroute
  refine ⟨⟨unit, hunit, signature, hdeclared, hserves⟩, ?_⟩
  refine dispatches_of_fits (fun position parameter hparameter => ?_) hnames hfits request state
    name
  have hlt : position < signature.parameters.length := by
    rw [← hserves.length_eq]
    exact (List.getElem?_eq_some_iff.mp hparameter).1
  exact (hserves.parameter position _ parameter (List.getElem?_eq_getElem hlt) hparameter).1

/-! ### A route that is served -/

/-- The items of a file whose module `notes` is a group with the handler `show`. -/
def showItems : List Item :=
  [.module [⟨false, false, ["route_group"], .bare⟩] .everywhere "notes" 1
    (some [.function [⟨false, false, ["get"], .list [.literal "\"/notes/\x7bid\x7d\""]⟩]
      .everywhere showSignature])]

def showSources [SourceParser] : SourceSet :=
  ⟨[⟨"crate", "src/routes.rs", declarationsOfItems "src/routes.rs" showItems⟩], []⟩

def showDiscovered [SourceParser] : DiscoveredHandler :=
  ⟨"show", "crate::notes::show", "GET", showContext.route, .ofSignature showSignature,
    ⟨"src/routes.rs", 1⟩⟩

def showRoute : Route where
  method := .get
  template := .ofText showContext.route
  handlerName := "show"
  handlerPath := "crate::notes::show"
  isAsync := false
  parameters :=
    [⟨"id", "id", ⟨"u32", "u32", false⟩, 0, .path, true, .converterRegistry⟩,
      ⟨"note", "note", ⟨"Option<u32>", "u32", true⟩, 1, .query, false, .converterRegistry⟩,
      ⟨"context", "context", ⟨"&CallContext", "&CallContext", false⟩, 2, .pipeline, true,
        .context⟩]
  returns := ⟨.unit, false⟩

/-- The only group of the file. -/
def showGroups : List RouteGroup := [⟨"notes", "crate::notes", "", [showRoute], []⟩]

section Standard

attribute [local instance] SourceParser.standard

theorem compileHandler_show :
    compileHandler [] "crate::notes" showDiscovered = .ok showRoute := by
  have hunfold : compileHandler [] "crate::notes" showDiscovered =
      (bindParameters showContext (.ofSignature showSignature) >>= fun bound =>
        resolveParameters showContext "crate::notes" [] bound >>= fun parameters =>
          .ok { showRoute with parameters }) := rfl
  rw [hunfold, bindParameters_show]
  rfl

theorem analyze_show : (analyze showSources).result = .ok showGroups := by
  have hdiscover : discover showSources = ([⟨"notes", "crate::notes", "", [showDiscovered], [],
      ⟨"src/routes.rs", 1⟩⟩], (discover showSources).2) := rfl
  have hdiagnostics : (discover showSources).2.diagnostics = [] := rfl
  have hcompile : compileGroups [] [⟨"notes", "crate::notes", "", [showDiscovered], [],
      ⟨"src/routes.rs", 1⟩⟩] = (showGroups, []) := by
    simp only [compileGroups, compileGroup, compileHandlers, compileHandler_show]
    rfl
  have hconverters : showSources.converters = [] := rfl
  rw [analyze, hdiscover]
  simp only [hconverters, hcompile, hdiagnostics]
  rfl

def countingHandler : Handler Bookshelf.ShelfType ℕ where
  parameterTypes := [.value (.integer .u32), .value (.integer .u32), .request]
  isAsync := false
  isFallible := false
  call _ := fun count => (.ok .unit, count + 1)

/-- The standard registries and the counting handler. -/
def countingSurroundings : Surroundings Bookshelf.ShelfType ℕ where
  registries := .standard
  converter? _ _ := none
  handler? path := if path = "crate::notes::show" then some countingHandler else none

theorem fits_counting : Fits countingSurroundings showRoute countingHandler where
  handler_eq := rfl
  length_eq := rfl
  accepts := by
    intro parameter hmem type htype
    simp only [showRoute, List.mem_cons, List.not_mem_nil, or_false] at hmem
    rcases hmem with rfl | rfl | rfl
    · cases htype
      exact .text rfl nofun
    · cases htype
      exact .text rfl nofun
    · cases htype
      exact .request rfl
  isAsync_eq := rfl
  isFallible_eq := rfl
  returns _ _ := rfl

def showRequest : Request :=
  (Request.ofTarget ⟨⟨0, Nat.pow_pos Nat.zero_lt_two⟩⟩ ⟨"GET", rfl⟩
    "/notes/7").withPathParameters [("id", "7")]

theorem dispatches_show :
    Dispatches countingSurroundings showRoute countingHandler showRequest 0
      ((showRoute.dispatchFunction "dispatch_notes_show").run countingSurroundings showRequest
        0) := by
  have hloaded : showSources.IsLoaded := by
    intro unit hmem
    rw [List.mem_singleton.mp hmem]
    exact ⟨showItems, rfl⟩
  exact (dispatches_of_analyze hloaded analyze_show List.mem_cons_self (by decide) fits_counting
    showRequest 0 "dispatch_notes_show").2

end Standard

end MarkedRoutes
