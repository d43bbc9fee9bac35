import MarkedRoutes.Compiler
import MarkedRoutes.Proofs.Generated.CalleePaths
import MarkedRoutes.Proofs.Generated.PrintableGroups
import MarkedRoutes.Proofs.Generated.Registration
import MarkedRoutes.Proofs.Resolution.MountedPaths

/-!
# What can be generated

A file is generated for groups of routes when the entry point has a name, every path that a
dispatch function names has tokens, and the parser takes what is printed.  An analysis only makes
sure that the paths name something.  So it accepts a converter that is named with generic
arguments, for which no file can be generated; where generic arguments stand behind `::` alone,
what is printed is a program.
-/

namespace MarkedRoutes

open MarkedRoutes.Source
open MarkedRoutes.Text

section

variable [SourceParser]

/-! ### Steps -/

theorem isOk_conversion (runtime : List Token) (source : TextSource) (key : String)
    (converter : TextConverter) (isRequired : Bool) :
    (conversion runtime source key converter isRequired).isOk =
      match converter with
      | .registered => true
      | .named path => (pathTokens path).isOk := by
  cases converter with
  | registered => cases isRequired <;> rfl
  | named path =>
      apply isOk_bind_of_isOk
      intro tokens
      cases isRequired <;> rfl

/-- A step can be written when the converter that it names has tokens. -/
theorem Step.isOk_tokens (runtime : List Token) (step : Step) :
    (step.tokens runtime).isOk = step.converterPath?.all fun path => (pathTokens path).isOk := by
  cases step with
  | provide target => rfl
  | context target => rfl
  | receive target => rfl
  | convert target source key converter isRequired =>
      rw [Step.tokens, isOk_map, isOk_conversion]
      cases converter <;> rfl

theorem isOk_stepTokens (runtime : List Token) (steps : List Step) :
    (stepTokens runtime steps).isOk = steps.all fun step => (step.tokens runtime).isOk := by
  induction steps with
  | nil => rfl
  | cons first steps ih =>
      rw [stepTokens, List.all_cons, ← ih]
      apply isOk_bind
      intro statement
      exact isOk_bind_of_isOk fun _ => rfl

/-! ### Functions -/

theorem DispatchFunction.isOk_tokens (runtime : List Token) (function : DispatchFunction) :
    (function.tokens runtime).isOk =
      ((stepTokens runtime function.steps).isOk && (pathTokens function.handlerPath).isOk) := by
  rw [DispatchFunction.tokens]
  apply isOk_bind
  intro steps
  exact isOk_bind_of_isOk fun _ => rfl

theorem isOk_itemTokens (runtime : List Token) (items : List GeneratedItem) :
    (itemTokens runtime items).isOk = items.all fun item => (item.tokens runtime).isOk := by
  induction items with
  | nil => rfl
  | cons first items ih =>
      rw [itemTokens, List.all_cons, ← ih]
      apply isOk_bind
      intro item
      exact isOk_bind_of_isOk fun _ => rfl

/-! ### Programs -/

omit [SourceParser] in
theorem isOk_entryName (entry : String) :
    (entryName entry).isOk = isBareName (unraw entry) := by
  rw [entryName]
  split_ifs with hbare
  · exact hbare.symm
  · exact (Bool.eq_false_iff.mpr hbare).symm

theorem GeneratedProgram.isOk_tokens {program : GeneratedProgram} {runtimePath : String}
    {runtime : List Token} (hruntime : pathTokens runtimePath = .ok runtime) :
    (program.tokens runtimePath).isOk =
      ((itemTokens runtime program.items).isOk && isBareName (unraw program.entry)) := by
  rw [GeneratedProgram.tokens, hruntime]
  change (itemTokens runtime program.items >>= fun items => _).isOk = _
  apply isOk_bind
  intro items
  refine (isOk_bind_of_isOk fun entry => ?_).trans (isOk_entryName program.entry)
  rfl

theorem isSome_pathOfText?_runtimePath {configuration : Configuration}
    (hvalid : configuration.fault? = none) :
    (pathOfText? configuration.runtimePath).isSome = true := by
  rw [Configuration.fault?] at hvalid
  split_ifs at hvalid with hmodule hruntime
  rwa [Option.isNone_iff_eq_none, ← ne_eq, Option.ne_none_iff_isSome] at hruntime

/-! ### Routes -/

/-- A dispatch function has tokens when every path that its route names has. -/
theorem Route.isOk_tokens_dispatchFunction {route : Route}
    (hconverters : ∀ parameter ∈ route.parameters, ∀ path,
      parameter.step.converterPath? = some path ↔ parameter.source.converterPath? = some path)
    (runtime : List Token) (name : String) :
    ((route.dispatchFunction name).tokens runtime).isOk = true ↔
      ∀ path ∈ route.namedPaths, (pathTokens path).isOk = true := by
  have hsteps : (stepTokens runtime (route.dispatchFunction name).steps).isOk = true ↔
      ∀ parameter ∈ route.parameters, ∀ path, parameter.source.converterPath? = some path →
        (pathTokens path).isOk = true := by
    rw [isOk_stepTokens, List.all_eq_true, dispatchFunction, dispatchSteps_eq, List.forall_mem_map]
    refine forall_congr' fun parameter => ?_
    rw [mem_evaluationOrder]
    refine forall_congr' fun hmem => ?_
    rw [Step.isOk_tokens, Option.all_eq_true]
    exact forall_congr' fun path => imp_congr_left (hconverters parameter hmem path)
  rw [DispatchFunction.isOk_tokens, Bool.and_eq_true, hsteps, namedPaths, List.forall_mem_cons,
    List.forall_mem_filterMap, and_comm]
  rfl

omit [SourceParser] in
/-- What holds of the dispatch functions of routes holds of those that are registered for them. -/
theorem forall_registration_iff {routes : List Route} {registrations : List Registration}
    (hregisters : List.Forall₂ Registers routes registrations) {P : DispatchFunction → Prop}
    {Q : Route → Prop}
    (hroutes : ∀ route ∈ routes, ∀ name, P (route.dispatchFunction name) ↔ Q route) :
    (∀ registration ∈ registrations, P registration.function) ↔ ∀ route ∈ routes, Q route := by
  induction hregisters with
  | nil => exact iff_of_true (List.forall_mem_nil _) (List.forall_mem_nil _)
  | cons hfirst _ ih =>
      obtain ⟨hroute, hmore⟩ := List.forall_mem_cons.mp hroutes
      rw [List.forall_mem_cons, List.forall_mem_cons, ih hmore, hfirst, hroute]

/-- The functions that are emitted for routes have tokens when the dispatch functions have. -/
theorem isOk_itemTokens_iff (runtime : List Token) (items : List GeneratedItem) :
    (itemTokens runtime items).isOk = true ↔
      ∀ registration ∈ registrationsIn items,
        (registration.function.tokens runtime).isOk = true := by
  rw [isOk_itemTokens, List.all_eq_true]
  constructor
  · intro hitems registration hmem
    obtain ⟨item, hitem, hregistration⟩ := List.mem_filterMap.mp hmem
    have htokens := hitems item hitem
    cases item with
    | registration function => cases hregistration
    | dispatch function =>
        cases hregistration
        exact htokens
  · intro hregistrations item hitem
    cases item with
    | registration function => rfl
    | dispatch function => exact hregistrations _ (List.mem_filterMap.mpr ⟨_, hitem, rfl⟩)

/-! ### Analysed sources -/

omit [SourceParser] in
/-- A resolved parameter names a converter in its step when one was resolved for it. -/
theorem converterPath?_step {context : RouteContext} {modulePath : String}
    {converters : List ConverterDeclaration} {bound : BoundParameter}
    {parameter : ResolvedParameter}
    (hresolve : resolveParameter context modulePath converters bound = .ok parameter)
    (path : String) :
    parameter.step.converterPath? = some path ↔ parameter.source.converterPath? = some path := by
  obtain ⟨source, hsource, rfl⟩ := resolveParameter_ok hresolve
  rw [valueSource] at hsource
  rw [ResolvedParameter.step]
  -- A parameter without a text has a fixed source, which names no converter.
  cases hkind : bound.kind <;> rw [hkind] at hsource
  case provided | pipeline | body =>
      cases hsource
      exact Iff.rfl
  all_goals cases source <;>
    simp [Step.converterPath?, ValueSource.textConverter, ValueSource.converterPath?]

omit [SourceParser] in
theorem exists_resolveParameter {sources : SourceSet} {groups : List RouteGroup} {route : Route}
    (hanalyze : (analyze sources).result = .ok groups) (hroute : route ∈ allRoutesOf groups)
    {parameter : ResolvedParameter} (hmem : parameter ∈ route.parameters) :
    ∃ context modulePath bound,
      resolveParameter context modulePath sources.converters bound = .ok parameter := by
  rw [(analyze_ok hanalyze).1] at hroute
  obtain ⟨modulePath, handler, -, hcompile⟩ := mem_allRoutesOf_compileGroups _ hroute
  obtain ⟨context, bound, -, hresolve, -⟩ := compileHandler_ok hcompile
  obtain ⟨position, hparameter⟩ := List.mem_iff_getElem?.mp hmem
  obtain ⟨entry, -, hentry⟩ := getElem?_of_forall₂ (resolveParameters_ok hresolve) hparameter
  exact ⟨context, modulePath, entry, hentry⟩

/-- The program of analysed groups has tokens when the entry point has a name and every path that a
route names has tokens. -/
theorem isOk_tokens_ofGroups {configuration : Configuration} {sources : SourceSet}
    {groups : List RouteGroup} (hvalid : configuration.fault? = none)
    (hanalyze : (analyze sources).result = .ok groups) :
    ((GeneratedProgram.ofGroups configuration.entryFunction groups).1.tokens
        configuration.runtimePath).isOk = true ↔
      isBareName (unraw configuration.entryFunction) = true ∧
        ∀ route ∈ allRoutesOf groups, ∀ path ∈ route.namedPaths,
          (pathTokens path).isOk = true := by
  obtain ⟨runtime, hruntime⟩ := isOk_eq_true_iff.mp
    (isOk_pathTokens_of_isSome (isSome_pathOfText?_runtimePath hvalid))
  have hregisters :=
    (emits_emitGroups (.ofName configuration.entryFunction) "" groups).registrations
  rw [GeneratedProgram.isOk_tokens hruntime, Bool.and_eq_true, isOk_itemTokens_iff, and_comm]
  refine and_congr_right fun _ => ?_
  have hroutes : ∀ route ∈ allRoutesOf groups, ∀ name,
      ((route.dispatchFunction name).tokens runtime).isOk = true ↔
        ∀ path ∈ route.namedPaths, (pathTokens path).isOk = true := by
    intro route hroute name
    refine route.isOk_tokens_dispatchFunction (fun parameter hmem path => ?_) runtime name
    obtain ⟨context, modulePath, bound, hresolve⟩ := exists_resolveParameter hanalyze hroute hmem
    exact converterPath?_step hresolve path
  exact forall_registration_iff (P := fun function => (function.tokens runtime).isOk = true)
    hregisters hroutes

end

/-! ### Paths that can be values -/

section

variable [SourceParser] {text : String}

omit [SourceParser] in
/-- A plain name is written as an identifier or names a place in the module tree. -/
theorem isIdentifier_writtenName {name : String} (hplain : IsPlainName name) :
    IsIdentifier (writtenName name) ∨ isPathWord (writtenName name) = true := by
  rw [writtenName]
  split_ifs with hraw
  · refine Or.inl (.raw hplain.isBare ?_)
    rw [hasNoRawForm, hraw.2, beq_eq_false_iff_ne.mpr hplain.ne_underscore]
    rfl
  · rw [mustBeRaw_iff hplain] at hraw
    cases hkeyword : isKeyword name with
    | false => exact Or.inl (.bare hplain.isBare hkeyword)
    | true => exact Or.inr (by simpa [hkeyword] using hraw)

/-- A text that, where it is a path as it stands, has its generic arguments behind `::` and does
not begin with `try`. -/
def IsValueText (text : String) : Prop :=
  ∀ path, pathOfText? text = some path → path.isValuePath = true ∧ path.opensWithTry = false

instance (text : String) : Decidable (IsValueText text) :=
  decidable_of_iff
    (((pathOfText? text).all fun path => path.isValuePath && !path.opensWithTry) = true) <| by
      simp only [Option.all_eq_true, Bool.and_eq_true, Bool.not_eq_true']
      exact Iff.rfl

/-- The tokens of such a text can be a value. -/
theorem IsValueText.isValuePath (hvalue : IsValueText text) {tokens : List Token}
    (htokens : pathTokens text = .ok tokens) : IsValuePath tokens := by
  cases hpath : pathOfText? text with
  | some path =>
      rw [pathTokens, hpath] at htokens
      cases htokens
      exact .read hpath (hvalue path hpath).1 (hvalue path hpath).2
  | none =>
      have hplain : IsPlainPath text :=
        (isOk_pathTokens_iff.mp (isOk_eq_true_iff.mpr ⟨tokens, htokens⟩)).resolve_left
          (by rw [hpath]; exact Bool.false_ne_true)
      have hne : (namesOfPath text).map writtenName ≠ [] := by
        rw [namesOfPath, ne_eq, List.map_eq_nil_iff, List.map_eq_nil_iff]
        exact splitOnColons_ne_nil _
      rw [pathTokens_of_none hpath, segmentNameTokens_names hplain] at htokens
      cases htokens
      exact .names _ hne (List.forall_mem_map.mpr fun name hmem =>
        isIdentifier_writtenName (hplain name hmem))

end

/-! ### Generation -/

section

variable [SourceParser] {configuration : Configuration}

section

variable {groups : List RouteGroup}

/-- A file is generated when the program has tokens and the parser takes them. -/
theorem isOk_generate_iff (hvalid : configuration.fault? = none) :
    (generate configuration groups).1.isOk = true ↔
      ∃ tokens, (GeneratedProgram.ofGroups configuration.entryFunction groups).1.tokens
        configuration.runtimePath = .ok tokens ∧ SourceParser.areItems tokens = true := by
  rcases hprogram : GeneratedProgram.ofGroups configuration.entryFunction groups
    with ⟨program, events⟩
  rw [generate, hvalid, hprogram]
  dsimp only
  cases program.tokens configuration.runtimePath with
  | error fault =>
      refine iff_of_false Bool.false_ne_true ?_
      rintro ⟨tokens, htokens, -⟩
      cases htokens
  | ok tokens =>
      dsimp only
      split_ifs with hitems
      · exact iff_of_true rfl ⟨tokens, rfl, hitems⟩
      · refine iff_of_false Bool.false_ne_true ?_
        rintro ⟨other, hother, hparses⟩
        cases hother
        exact hitems hparses

/-- No name is missing when the program has tokens. -/
theorem generate_ne_name_iff (hvalid : configuration.fault? = none) :
    (∀ fault, (generate configuration groups).1 ≠ .error (.name fault)) ↔
      ((GeneratedProgram.ofGroups configuration.entryFunction groups).1.tokens
        configuration.runtimePath).isOk = true := by
  rcases hprogram : GeneratedProgram.ofGroups configuration.entryFunction groups
    with ⟨program, events⟩
  rw [generate, hvalid, hprogram]
  dsimp only
  cases program.tokens configuration.runtimePath with
  | error fault => exact iff_of_false (fun hne => hne fault rfl) Bool.false_ne_true
  | ok tokens =>
      dsimp only
      split_ifs
      · exact iff_of_true (fun fault hname => by cases hname) rfl
      · exact iff_of_true (fun fault hname => by cases hname) rfl

end

theorem isIdentifier_entryFunction (hvalid : configuration.fault? = none)
    (hbare : isBareName (unraw configuration.entryFunction) = true) :
    IsIdentifier configuration.entryFunction := by
  refine isIdentifier_of_identifierOfText? ?_ hbare
  rw [Configuration.fault?] at hvalid
  split_ifs at hvalid with hmodule hruntime hentry
  rwa [Option.isNone_iff_eq_none, ← ne_eq, Option.ne_none_iff_isSome] at hentry

/-- The entry point has a name, and every path that a route names is one as it stands or made of
plain names. -/
def HasNames (configuration : Configuration) (groups : List RouteGroup) : Prop :=
  isBareName (unraw configuration.entryFunction) = true ∧
    ∀ route ∈ allRoutesOf groups, ∀ path ∈ route.namedPaths,
      (pathOfText? path).isSome = true ∨ IsPlainPath path

/-- Every path that stands where a value is expected can be one; a path that is called is not a
bare `crate`. -/
structure HasValuePaths (configuration : Configuration) (groups : List RouteGroup) : Prop where
  runtime : IsValueText configuration.runtimePath
  named : ∀ route ∈ allRoutesOf groups, ∀ path ∈ route.namedPaths, IsValueText path
  ne_crate : ∀ route ∈ allRoutesOf groups, ∀ path ∈ route.namedPaths,
    pathTokens path ≠ .ok [word "crate"]

/-- Where its paths can be values, the program of analysed groups is one of the language. -/
theorem isProgram_of_analyze (hnames : DeclaresBareNames) {texts : List SourceText}
    {sources : SourceSet} {groups : List RouteGroup} (hvalid : configuration.fault? = none)
    (hread : sources.IsReadFrom texts) (hanalyze : (analyze sources).result = .ok groups)
    (hentry : isBareName (unraw configuration.entryFunction) = true)
    (hpaths : HasValuePaths configuration groups) {tokens : List Token}
    (htokens : (GeneratedProgram.ofGroups configuration.entryFunction groups).1.tokens
      configuration.runtimePath = .ok tokens) : IsProgram tokens := by
  obtain ⟨runtime, hruntime⟩ := isOk_eq_true_iff.mp
    (isOk_pathTokens_of_isSome (isSome_pathOfText?_runtimePath hvalid))
  have hvalues : ∀ route ∈ allRoutesOf groups, route.NamesValues := by
    intro route hroute path hpath tokens htokens
    refine .path ((hpaths.named route hroute path hpath).isValuePath htokens) fun hcrate => ?_
    exact hpaths.ne_crate route hroute path hpath (hcrate ▸ htokens)
  have hprintable := isPrintable_ofGroups (isIdentifier_entryFunction hvalid hentry)
    (isBareName_of_analyze hnames hread hanalyze) hvalues
  exact GeneratedProgram.isProgram_tokens (hpaths.runtime.isValuePath hruntime) hprintable hruntime
    htokens

/-- After an analysis a name is missing exactly when the entry point has none or a route names a
path that is neither one as it stands nor made of plain names.  When every path that stands where
a value is expected can be one, nothing else keeps the file from being generated. -/
theorem generate_isOk_iff_of_analyze (hnames : DeclaresBareNames) (hprograms : ReadsPrograms)
    {texts : List SourceText} {sources : SourceSet} {groups : List RouteGroup}
    (hvalid : configuration.fault? = none) (hread : sources.IsReadFrom texts)
    (hanalyze : (analyze sources).result = .ok groups) :
    ((∀ fault, (generate configuration groups).1 ≠ .error (.name fault)) ↔
      HasNames configuration groups) ∧
    (HasValuePaths configuration groups →
      ((generate configuration groups).1.isOk = true ↔ HasNames configuration groups)) := by
  have htokens := isOk_tokens_ofGroups hvalid hanalyze
  simp only [isOk_pathTokens_iff] at htokens
  rw [HasNames, generate_ne_name_iff hvalid, isOk_generate_iff hvalid, ← htokens]
  refine ⟨Iff.rfl, fun hpaths => ⟨?_, fun hok => ?_⟩⟩
  · rintro ⟨tokens, hok, -⟩
    exact isOk_eq_true_iff.mpr ⟨tokens, hok⟩
  · obtain ⟨tokens, hprogram⟩ := isOk_eq_true_iff.mp hok
    exact ⟨tokens, hprogram, hprograms tokens
      (isProgram_of_analyze hnames hvalid hread hanalyze (htokens.mp hok).1 hpaths hprogram)⟩

end

/-! ### A source that passes the analysis only -/

theorem compile_generation [SourceParser] {configuration : Configuration} {sources : SourceSet}
    {fault : GenerationFault}
    (hcompile : (compile configuration sources).1 = .error (.generation fault)) :
    ∃ groups, (analyze sources).result = .ok groups ∧
      (generate configuration groups).1 = .error fault := by
  rw [compile] at hcompile
  dsimp only at hcompile
  split at hcompile
  · cases hcompile
  · next groups hanalyze =>
    refine ⟨groups, hanalyze, ?_⟩
    cases hgenerate : (generate configuration groups).1 with
    | ok file =>
        dsimp only at hcompile
        rw [hgenerate] at hcompile
        cases hcompile
    | error found =>
        dsimp only at hcompile
        rw [hgenerate] at hcompile
        cases hcompile
        rfl

/-- A compilation that fails only when the file is generated has passed the analysis. -/
theorem compileText_generation [SourceParser] {configuration : Configuration} {file text : String}
    {fault : GenerationFault}
    (hcompile : (compileText configuration file text).1 = .error (.generation fault)) :
    ∃ sources groups, SourceSet.empty.addText configuration.modulePath file text = .ok sources ∧
      (analyze sources).result = .ok groups ∧ (generate configuration groups).1 = .error fault := by
  unfold compileText at hcompile
  split at hcompile
  · cases hcompile
  · next sources hadd =>
    obtain ⟨groups, hanalyze, hgenerate⟩ := compile_generation hcompile
    exact ⟨sources, groups, hadd, hanalyze, hgenerate⟩

/-- A file whose handler names a converter by a path with a generic argument. -/
def genericText (converter : String) : String :=
  "#[route_group] pub mod a \x7b #[get(\"/\x7bid\x7d\")] pub fn f(#[convert(" ++ converter ++
    ")] id: u8) \x7b\x7d impl Converter<u8> for " ++ converter ++ " \x7b\x7d \x7d"

section Standard

attribute [local instance] SourceParser.standard

/-- Behind a name a generic argument is no part of a value, and the file is not generated. -/
theorem generate_unparsable :
    Configuration.standard.fault? = none ∧ ∃ sources groups,
      SourceSet.empty.addText Configuration.standard.modulePath "src/routes.rs"
          (genericText "Gen<u8>") = .ok sources ∧
        (analyze sources).result = .ok groups ∧
        (generate .standard groups).1 = .error .unparsable := by
  have hcompile : (compileText .standard "src/routes.rs" (genericText "Gen<u8>")).1 =
      .error (.generation .unparsable) := by
    decide +kernel
  exact ⟨by decide +kernel, compileText_generation hcompile⟩

end Standard

/-- The parser of the grammar, except that all tokens count as the items of a file. -/
@[reducible]
def SourceParser.trusting : SourceParser where
  file := readFile
  path := readFullPath
  areItems _ := true

section Trusting

attribute [local instance] SourceParser.trusting

/-- Whether the paths of groups can be values and have tokens, and the grammar takes the items that
are printed for the groups. -/
def canGenerate (groups : List RouteGroup) : Bool :=
  (allRoutesOf groups).all (fun route => route.namedPaths.all fun path =>
    decide (IsValueText path) &&
      (pathTokens path).toOption.any fun tokens => tokens.length != 1) &&
    (@generate SourceParser.standard .standard groups).1.isOk

/-- Whether a text passes the analysis with groups for which a file can be generated. -/
def passes (text : SourceText) : Bool :=
  match SourceSet.empty.addText text.modulePath text.file text.content with
  | .error _ => false
  | .ok sources =>
    match (analyze sources).result with
    | .error _ => false
    | .ok groups => canGenerate groups

theorem exists_groups_of_passes {text : SourceText} (hpasses : passes text = true) :
    ∃ sources groups, sources.IsReadFrom [text] ∧ (analyze sources).result = .ok groups ∧
      canGenerate groups = true := by
  unfold passes at hpasses
  split at hpasses
  · cases hpasses
  · next sources hadd =>
    split at hpasses
    · cases hpasses
    · next groups hanalyze => exact ⟨sources, groups, .addText .empty hadd, hanalyze, hpasses⟩

/-- The file with its generic argument behind `::`. -/
def turbofishText : SourceText :=
  ⟨"crate::routes", "src/routes.rs", genericText "Gen::<u8>"⟩

/-- Behind `::` a generic argument is part of a value, and the file is generated. -/
theorem isOk_generate_turbofish :
    Configuration.standard.fault? = none ∧ ∃ sources groups,
      sources.IsReadFrom [turbofishText] ∧ (analyze sources).result = .ok groups ∧
      HasValuePaths .standard groups ∧ HasNames .standard groups ∧
      (generate .standard groups).1.isOk = true ∧
      (@generate SourceParser.standard .standard groups).1.isOk = true := by
  have hvalid : Configuration.standard.fault? = none := by decide +kernel
  have hpasses : passes turbofishText = true := by decide +kernel
  obtain ⟨sources, groups, hread, hanalyze, hgenerates⟩ := exists_groups_of_passes hpasses
  obtain ⟨hroutes, hstandard⟩ := Bool.and_eq_true_iff.mp hgenerates
  have hpath : ∀ route ∈ allRoutesOf groups, ∀ path ∈ route.namedPaths, IsValueText path ∧
      ∃ tokens, pathTokens path = .ok tokens ∧ tokens.length ≠ 1 := by
    intro route hroute path hmem
    have hchecked := List.all_eq_true.mp (List.all_eq_true.mp hroutes route hroute) path hmem
    rw [Bool.and_eq_true, decide_eq_true_eq] at hchecked
    obtain ⟨tokens, htokens, hne⟩ := (Option.any_eq_true _ _).mp hchecked.2
    exact ⟨hchecked.1, tokens, eq_ok_of_toOption htokens, bne_iff_ne.mp hne⟩
  have hpaths : HasValuePaths .standard groups := by
    refine ⟨by decide +kernel, fun route hroute path hmem => (hpath route hroute path hmem).1,
      fun route hroute path hmem hcrate => ?_⟩
    obtain ⟨-, tokens, htokens, hne⟩ := hpath route hroute path hmem
    rw [Except.ok.inj (htokens.symm.trans hcrate)] at hne
    exact hne rfl
  have hnames : HasNames .standard groups := by
    refine ⟨by decide +kernel, fun route hroute path hmem => isOk_pathTokens_iff.mp ?_⟩
    obtain ⟨-, tokens, htokens, -⟩ := hpath route hroute path hmem
    exact isOk_eq_true_iff.mpr ⟨tokens, htokens⟩
  have hgenerate := generate_isOk_iff_of_analyze (declaresBareNames_of_file fun _ => rfl)
    (fun _ _ => rfl) hvalid hread hanalyze
  exact ⟨hvalid, sources, groups, hread, hanalyze, hpaths, hnames,
    (hgenerate.2 hpaths).mpr hnames, hstandard⟩

end Trusting

end MarkedRoutes
