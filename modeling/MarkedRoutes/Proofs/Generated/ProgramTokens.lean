import MarkedRoutes.Generated.Print
import MarkedRoutes.Proofs.Results
import MarkedRoutes.Proofs.Source.ProgramGrammar

/-!
# Printed programs are programs

Every part of a generated program is printed in the language of generated programs, as long
as its functions and variables are named by identifiers and its paths can be values.
-/

namespace MarkedRoutes

open MarkedRoutes.Source

variable [SourceParser] {runtime : List Token}

/-! ### Paths and names -/

omit [SourceParser] in
theorem nameTokens_eq (names : List String) : nameTokens names = joinedNameTokens 0 names := by
  fun_induction nameTokens names with
  | case1 => rfl
  | case2 last => rfl
  | case3 first second rest ih =>
      rw [joinedNameTokens_cons_cons, ih]
      rfl

theorem isExpression_name {name : String} (hname : IsIdentifier name) :
    IsExpression [word name] := by
  have hcrate : name ≠ "crate" := by
    rintro rfl
    have hkeyword : isKeyword "crate" = true := by decide +kernel
    generalize hword : "crate" = text at hname hkeyword
    cases hname with
    | bare _ hother => exact absurd hkeyword (Bool.eq_false_iff.mp hother)
    | raw _ _ => exact absurd (congrArg String.toList hword) (by simp)
  refine .path (.names false (List.cons_ne_nil name []) ?_) ?_
  · exact List.forall_mem_singleton.mpr (Or.inl hname)
  · intro htokens
    cases htokens
    exact hcrate rfl

theorem isValuePath_standard {names : List String} (hplain : names.all isPlainIdentifier = true) :
    IsValuePath (standard names) := by
  have hstd : isPlainIdentifier "std" = true := by decide +kernel
  rw [standard, nameTokens_eq]
  refine .names true (List.cons_ne_nil _ _) fun name hmem => Or.inl ?_
  exact forall_isIdentifier (by rw [List.all_cons, hstd, hplain]; rfl) name hmem

theorem isValuePath_inRuntime (hruntime : IsValuePath runtime) {names : List String}
    (hplain : names.all isPlainIdentifier = true) : IsValuePath (inRuntime runtime names) := by
  have hruntimeName : isPlainIdentifier "runtime" = true := by decide +kernel
  rw [inRuntime, nameTokens_eq]
  refine .extended hruntime (List.cons_ne_nil _ _) fun name hmem => ?_
  exact forall_isIdentifier (by rw [List.all_cons, hruntimeName, hplain]; rfl) name hmem

theorem isExpression_standard {names : List String}
    (hplain : names.all isPlainIdentifier = true) : IsExpression (standard names) :=
  .path (isValuePath_standard hplain) fun htokens => by cases htokens

theorem isExpression_inRuntime (hruntime : IsValuePath runtime) {names : List String}
    (hplain : names.all isPlainIdentifier = true) : IsExpression (inRuntime runtime names) := by
  refine .path (isValuePath_inRuntime hruntime hplain) fun htokens => ?_
  have hlength := congrArg List.length htokens
  simp only [inRuntime, colons, operator, List.length_append, List.length_cons,
    List.length_nil] at hlength
  omega

/-! ### Values -/

theorem isExpression_call {callee : List Token} {arguments : List (List Token)}
    (hcallee : IsExpression callee) (harguments : ∀ argument ∈ arguments, IsExpression argument) :
    IsExpression (call callee arguments) :=
  .call hcallee harguments false

theorem isExpression_methodCall {receiver : List Token} {name : String}
    {arguments : List (List Token)} (hreceiver : IsExpression receiver) (hname : IsIdentifier name)
    (harguments : ∀ argument ∈ arguments, IsExpression argument) :
    IsExpression (methodCall receiver name arguments) :=
  .method hreceiver hname harguments false

theorem isExpression_literal (text : String) :
    IsExpression [.literal (Text.stringLiteral text)] := .text (.escaped text)

theorem isExpression_awaited {future : List Token} (hfuture : IsExpression future) :
    IsExpression (future ++ awaited) := by
  have hvalue := IsExpression.handedOn (IsExpression.awaited hfuture)
  rwa [List.append_assoc] at hvalue

/-- A binding is a statement. -/
theorem isBody_bind {name : String} {value rest : List Token} (hname : IsIdentifier name)
    (hvalue : IsExpression value) (hrest : IsBody rest) : IsBody (bind name value ++ rest) := by
  have hbody := IsBody.bind hname hvalue hrest
  rw [bind, List.cons_append, List.cons_append, List.cons_append, List.append_assoc]
  exact hbody

/-! ### Steps -/

def Step.converterPath? : Step → Option String
  | .convert _ _ _ (.named path) _ => some path
  | _ => none

/-- A step whose variable is named by an identifier and whose converter can be a value. -/
structure Step.IsPrintable (step : Step) : Prop where
  target : IsIdentifier step.target
  converter : ∀ path tokens, step.converterPath? = some path → pathTokens path = .ok tokens →
    IsExpression tokens

/-- The value of a text step can be converted by the registry or by a converter that can be a
value. -/
theorem isExpression_conversion (hruntime : IsValuePath runtime) {source : TextSource}
    {key : String} {converter : TextConverter} {isRequired : Bool} {value : List Token}
    (hconverter : ∀ path tokens, converter = .named path → pathTokens path = .ok tokens →
      IsExpression tokens)
    (hvalue : conversion runtime source key converter isRequired = .ok value) :
    IsExpression value := by
  have hctx : IsIdentifier "ctx" := isIdentifier_of_isPlainIdentifier (by decide +kernel)
  have hconverters : IsIdentifier "converters" :=
    isIdentifier_of_isPlainIdentifier (by decide +kernel)
  have haccessor : IsIdentifier source.names.1 :=
    isIdentifier_of_isPlainIdentifier (by cases source <;> decide +kernel)
  have hraw : IsExpression
      (methodCall [word "ctx"] source.names.1 [[.literal (Text.stringLiteral key)]]) :=
    isExpression_methodCall (isExpression_name hctx) haccessor
      (List.forall_mem_singleton.mpr (isExpression_literal key))
  have hplace : IsExpression (inRuntime runtime ["ParamSource", source.names.2]) :=
    isExpression_inRuntime hruntime (by cases source <;> decide +kernel)
  have hrequired : ∀ {converter : List Token}, IsExpression converter →
      ∀ argument ∈ [reference converter,
        methodCall [word "ctx"] source.names.1 [[.literal (Text.stringLiteral key)]]] ++
        [[.literal (Text.stringLiteral key)], inRuntime runtime ["ParamSource", source.names.2]],
      IsExpression argument := by
    intro converter hconverter
    simp only [List.cons_append, List.nil_append, List.forall_mem_cons]
    exact ⟨.reference hconverter, hraw, isExpression_literal key, hplace, List.forall_mem_nil _⟩
  have hoptional : ∀ {converter : List Token}, IsExpression converter →
      ∀ argument ∈ [reference converter,
        methodCall [word "ctx"] source.names.1 [[.literal (Text.stringLiteral key)]]],
      IsExpression argument := by
    intro converter hconverter
    simp only [List.forall_mem_cons]
    exact ⟨.reference hconverter, hraw, List.forall_mem_nil _⟩
  have hcallee : ∀ {name : String}, isPlainIdentifier name = true →
      IsExpression (inRuntime runtime [name]) := fun hname =>
    isExpression_inRuntime hruntime (by rw [List.all_cons, hname]; rfl)
  cases converter with
  | registered =>
      cases isRequired with
      | true =>
          cases hvalue
          exact .handedOn (isExpression_call (hcallee (by decide +kernel))
            (hrequired (isExpression_name hconverters)))
      | false =>
          cases hvalue
          exact .handedOn (isExpression_call (hcallee (by decide +kernel))
            (hoptional (isExpression_name hconverters)))
  | named path =>
      obtain ⟨tokens, htokens, hvalue⟩ := bind_eq_ok_iff.mp hvalue
      have hnamed := hconverter path tokens rfl htokens
      cases isRequired with
      | true =>
          cases hvalue
          exact .handedOn (isExpression_call (hcallee (by decide +kernel)) (hrequired hnamed))
      | false =>
          cases hvalue
          exact isExpression_call (hcallee (by decide +kernel)) (hoptional hnamed)

theorem Step.isBody_tokens (hruntime : IsValuePath runtime) {step : Step} {tokens rest : List Token}
    (hprintable : step.IsPrintable) (htokens : step.tokens runtime = .ok tokens)
    (hrest : IsBody rest) : IsBody (tokens ++ rest) := by
  have hctx : IsExpression [word "ctx"] :=
    isExpression_name (isIdentifier_of_isPlainIdentifier (by decide +kernel))
  have hproviders : IsExpression [word "providers"] :=
    isExpression_name (isIdentifier_of_isPlainIdentifier (by decide +kernel))
  cases step with
  | provide target =>
      cases htokens
      refine isBody_bind hprintable.target (isExpression_awaited ?_) hrest
      refine isExpression_call (isExpression_inRuntime hruntime (by decide +kernel)) ?_
      simp only [List.forall_mem_cons]
      exact ⟨.reference hproviders, .reference hctx, List.forall_mem_nil _⟩
  | convert target source key converter isRequired =>
      obtain ⟨value, hvalue, rfl⟩ := map_eq_ok_iff.mp htokens
      refine isBody_bind hprintable.target (isExpression_conversion hruntime ?_ hvalue) hrest
      rintro path tokens rfl hpath
      exact hprintable.converter path tokens rfl hpath
  | context target =>
      cases htokens
      exact isBody_bind hprintable.target (.reference hctx) hrest
  | receive target =>
      cases htokens
      have hreceive : IsIdentifier "receive" :=
        isIdentifier_of_isPlainIdentifier (by decide +kernel)
      exact isBody_bind hprintable.target
        (isExpression_awaited (isExpression_methodCall hctx hreceive (List.forall_mem_nil _))) hrest

theorem isBody_stepTokens (hruntime : IsValuePath runtime) {steps : List Step}
    {tokens rest : List Token} (hprintable : ∀ step ∈ steps, step.IsPrintable)
    (htokens : stepTokens runtime steps = .ok tokens) (hrest : IsBody rest) :
    IsBody (tokens ++ rest) := by
  induction steps generalizing tokens with
  | nil =>
      cases htokens
      exact hrest
  | cons first steps ih =>
      obtain ⟨hfirst, hmore⟩ := List.forall_mem_cons.mp hprintable
      obtain ⟨statement, hstatement, htokens⟩ := bind_eq_ok_iff.mp htokens
      obtain ⟨others, hothers, htokens⟩ := bind_eq_ok_iff.mp htokens
      cases htokens
      rw [List.append_assoc]
      exact first.isBody_tokens hruntime hfirst hstatement (ih hmore hothers)

/-! ### Dispatch functions -/

/-- A dispatch function whose own name and whose variables are identifiers, and whose handler and
converters can be values. -/
structure DispatchFunction.IsPrintable (function : DispatchFunction) : Prop where
  name : IsIdentifier function.name
  arguments : ∀ name ∈ function.arguments, IsIdentifier name
  steps : ∀ step ∈ function.steps, step.IsPrintable
  handler : ∀ tokens, pathTokens function.handlerPath = .ok tokens → IsExpression tokens

theorem isBody_answerTokens (hruntime : IsValuePath runtime) (kind : ReturnKind)
    {called : List Token} (hcalled : IsExpression called) :
    IsBody (answerTokens runtime kind called) := by
  have hresult : IsIdentifier "result" := isIdentifier_of_isPlainIdentifier (by decide +kernel)
  have hanswer : ∀ {name : String} {arguments : List (List Token)},
      isPlainIdentifier name = true → (∀ argument ∈ arguments, IsExpression argument) →
      IsBody (call (inRuntime runtime [name]) arguments) := by
    intro name arguments hname harguments
    refine .value (isExpression_call (isExpression_inRuntime hruntime ?_) harguments)
    rw [List.all_cons, hname]
    rfl
  cases kind with
  | unit => exact .statement hcalled (hanswer (by decide +kernel) (List.forall_mem_nil _))
  | value =>
      exact isBody_bind hresult hcalled (hanswer (by decide +kernel)
        (List.forall_mem_singleton.mpr (isExpression_name hresult)))
  | reply =>
      exact isBody_bind hresult hcalled (hanswer (by decide +kernel)
        (List.forall_mem_singleton.mpr (isExpression_name hresult)))

theorem DispatchFunction.isExpression_handlerCall (hruntime : IsValuePath runtime)
    {function : DispatchFunction} {handler : List Token} (hprintable : function.IsPrintable)
    (hhandler : IsExpression handler) : IsExpression (function.handlerCall runtime handler) := by
  have hplain : IsExpression (call handler (function.arguments.map fun name => [word name])) :=
    isExpression_call hhandler (List.forall_mem_map.mpr fun name hmem =>
      isExpression_name (hprintable.arguments name hmem))
  have hcalled : IsExpression (if function.isAsync then
      call handler (function.arguments.map fun name => [word name]) ++ [mark '.', word "await"]
        else call handler (function.arguments.map fun name => [word name])) := by
    split_ifs
    · exact .awaited hplain
    · exact hplain
  have hmapError : IsIdentifier "map_err" := isIdentifier_of_isPlainIdentifier (by decide +kernel)
  have hwrap : IsExpression (inRuntime runtime ["DispatchError", "handler"]) :=
    isExpression_inRuntime hruntime (by decide +kernel)
  rw [handlerCall]
  split
  · exact .handedOn (isExpression_methodCall hcalled hmapError
      (List.forall_mem_singleton.mpr hwrap))
  · exact hcalled

/-! ### Functions -/

/-- A documented function that allows unused variables, in front of other functions. -/
theorem isProgram_documented {literal : String} {function rest : List Token}
    (hliteral : IsTextLiteral literal) (hfunction : IsFunction function) (hrest : IsProgram rest) :
    IsProgram (documentation literal ++ (allowUnused ++ function) ++ rest) := by
  have hattributes : ∀ marked ∈ [documentation literal, allowUnused], IsAttribute marked := by
    have hlint : IsIdentifier "unused_variables" :=
      isIdentifier_of_isPlainIdentifier (by decide +kernel)
    simp only [List.forall_mem_cons]
    exact ⟨.documentation hliteral, .allow hlint, List.forall_mem_nil _⟩
  have hprogram := IsProgram.function hattributes hfunction hrest
  rwa [List.flatten_cons, List.flatten_cons, List.flatten_nil, List.append_nil,
    List.append_assoc, ← List.append_assoc allowUnused, ← List.append_assoc] at hprogram

theorem isParameter_typed {name : String} {type : List Token}
    (hplain : isPlainIdentifier name = true) (htype : IsType type) :
    IsParameter (typed name type) :=
  .intro (isIdentifier_of_isPlainIdentifier hplain) htype

theorem isType_sharedRegistry (hruntime : IsValuePath runtime) {name : String}
    (hplain : isPlainIdentifier name = true) : IsType (sharedRegistry runtime name) := by
  have hargument : IsType (inRuntime runtime [name]) :=
    .path (isValuePath_inRuntime hruntime (by rw [List.all_cons, hplain]; rfl))
  have hnames : ∀ name ∈ ["std", "sync", "Arc"], IsIdentifier name :=
    forall_isIdentifier (by decide +kernel)
  exact .applied true (List.cons_ne_nil _ _) hnames hargument

/-- A dispatch function is printed as a function. -/
theorem DispatchFunction.isProgram_tokens (hruntime : IsValuePath runtime)
    {function : DispatchFunction} {tokens rest : List Token} (hprintable : function.IsPrintable)
    (htokens : function.tokens runtime = .ok tokens) (hrest : IsProgram rest) :
    IsProgram (tokens ++ rest) := by
  obtain ⟨steps, hsteps, htokens⟩ := bind_eq_ok_iff.mp htokens
  obtain ⟨handler, hhandler, htokens⟩ := bind_eq_ok_iff.mp htokens
  cases htokens
  have hbody : IsBody (steps ++ answerTokens runtime function.returns.kind
      (function.handlerCall runtime handler)) :=
    isBody_stepTokens hruntime hprintable.steps hsteps (isBody_answerTokens hruntime _
      (isExpression_handlerCall hruntime hprintable (hprintable.handler handler hhandler)))
  have hpinned : IsBody (call (standard ["boxed", "Box", "pin"]) [[word "async", word "move",
      braced (steps ++ answerTokens runtime function.returns.kind
        (function.handlerCall runtime handler))]]) :=
    .value (isExpression_call (isExpression_standard (by decide +kernel))
      (List.forall_mem_singleton.mpr (.block hbody)))
  have hparameters : ∀ parameter ∈ [typed "ctx" (inRuntime runtime ["CallContext"]),
      typed "converters" (sharedRegistry runtime "ConverterRegistry"),
      typed "providers" (sharedRegistry runtime "ProviderRegistry")], IsParameter parameter := by
    simp only [List.forall_mem_cons]
    exact ⟨isParameter_typed (by decide +kernel)
        (.path (isValuePath_inRuntime hruntime (by decide +kernel))),
      isParameter_typed (by decide +kernel) (isType_sharedRegistry hruntime (by decide +kernel)),
      isParameter_typed (by decide +kernel) (isType_sharedRegistry hruntime (by decide +kernel)),
      List.forall_mem_nil _⟩
  have hfuture : IsType (inRuntime runtime ["DispatchFuture"]) :=
    .path (isValuePath_inRuntime hruntime (by decide +kernel))
  have hfunction := IsFunction.plain hprintable.name (.returning hparameters hfuture) hpinned
  exact isProgram_documented (.escaped _) hfunction hrest

/-! ### Registration functions -/

/-- The function that a statement of a registration function names. -/
def RegistrationCall.callee : RegistrationCall → String
  | .route _ _ dispatch => dispatch
  | .group registration => registration

/-- A registration function that is named by an identifier and names others by identifiers. -/
structure RegistrationFunction.IsPrintable (function : RegistrationFunction) : Prop where
  name : IsIdentifier function.name
  callees : ∀ statement ∈ function.calls, IsIdentifier statement.callee

theorem isExpression_words (names : List String)
    (hplain : names.all isPlainIdentifier = true) :
    ∀ argument ∈ names.map fun name => [word name], IsExpression argument :=
  List.forall_mem_map.mpr fun name hmem =>
    isExpression_name (forall_isIdentifier hplain name hmem)

/-- A statement of a registration function stands in front of others. -/
theorem RegistrationCall.isBody_tokens (hruntime : IsValuePath runtime)
    {statement : RegistrationCall} {rest : List Token} (hcallee : IsIdentifier statement.callee)
    (hrest : IsBody rest) : IsBody (statement.tokens runtime ++ rest) := by
  have hrouter : IsExpression [word "router"] :=
    isExpression_name (isIdentifier_of_isPlainIdentifier (by decide +kernel))
  cases statement with
  | route method path dispatch =>
      have hmethod : IsExpression (inRuntime runtime ["Method", method.name]) :=
        isExpression_inRuntime hruntime (by cases method <;> decide +kernel)
      have hunit : IsExpression (call (inRuntime runtime ["dispatch_unit"])
          [[word "converters"], [word "providers"], [word dispatch]]) := by
        refine isExpression_call (isExpression_inRuntime hruntime (by decide +kernel)) ?_
        have hregistries := isExpression_words ["converters", "providers"] (by decide +kernel)
        exact List.forall_mem_append.mpr ⟨hregistries, List.forall_mem_singleton.mpr
          (isExpression_name hcallee)⟩
      have harguments : ∀ argument ∈ [inRuntime runtime ["Method", method.name],
          [.literal (Text.stringLiteral path)], call (inRuntime runtime ["dispatch_unit"])
            [[word "converters"], [word "providers"], [word dispatch]]],
          IsExpression argument := by
        simp only [List.forall_mem_cons]
        exact ⟨hmethod, isExpression_literal path, hunit, List.forall_mem_nil _⟩
      exact .statement (.method hrouter (isIdentifier_of_isPlainIdentifier (by decide +kernel))
        harguments true) hrest
  | group registration =>
      have hcall : IsExpression (call [word registration]
          [[word "router"], [word "converters"], [word "providers"]]) :=
        isExpression_call (isExpression_name hcallee)
          (isExpression_words ["router", "converters", "providers"] (by decide +kernel))
      rw [tokens, List.append_assoc]
      exact .statement hcall hrest

theorem isBody_callTokens (hruntime : IsValuePath runtime) {calls : List RegistrationCall}
    (hcallees : ∀ statement ∈ calls, IsIdentifier statement.callee) :
    IsBody (calls.flatMap fun statement => statement.tokens runtime) := by
  induction calls with
  | nil => exact .nothing
  | cons first calls ih =>
      obtain ⟨hfirst, hmore⟩ := List.forall_mem_cons.mp hcallees
      exact first.isBody_tokens hruntime hfirst (ih hmore)

/-- What a function that registers routes is printed as behind `fn`. -/
theorem exists_registrarTokens_eq (hruntime : IsValuePath runtime) (name : String)
    (registry : List Token → List Token) (body : List Token)
    (hregistry : ∀ {type : List Token}, IsType type → IsType (registry type)) :
    ∃ signature, IsSignature signature ∧ registrarTokens runtime name registry body =
      word "fn" :: word name :: (signature ++ [.group .brace body]) := by
  have hrouter : IsIdentifier "R" := isIdentifier_of_isPlainIdentifier (by decide +kernel)
  have hparameters : ∀ parameter ∈ [typed "router" [mark '&', word "mut", word "R"],
      typed "converters" (registry (sharedRegistry runtime "ConverterRegistry")),
      typed "providers" (registry (sharedRegistry runtime "ProviderRegistry"))],
      IsParameter parameter := by
    have htype : IsType [word "R"] :=
      .path (.names false (List.cons_ne_nil _ _) (List.forall_mem_singleton.mpr (Or.inl hrouter)))
    simp only [List.forall_mem_cons]
    exact ⟨isParameter_typed (by decide +kernel) (.mutable htype),
      isParameter_typed (by decide +kernel)
        (hregistry (isType_sharedRegistry hruntime (by decide +kernel))),
      isParameter_typed (by decide +kernel)
        (hregistry (isType_sharedRegistry hruntime (by decide +kernel))),
      List.forall_mem_nil _⟩
  have hbound : IsValuePath (inRuntime runtime ["RouteRegistrar"]) :=
    isValuePath_inRuntime hruntime (by decide +kernel)
  refine ⟨_, .bounded hrouter hparameters hbound, ?_⟩
  simp only [registrarTokens, routerBound, typed, parameterTokens, parenthesized, braced, declared,
    mark, List.cons_append, List.nil_append, List.append_assoc]

/-- A registration function is printed as a function. -/
theorem RegistrationFunction.isProgram_tokens (hruntime : IsValuePath runtime)
    {function : RegistrationFunction} {rest : List Token} (hprintable : function.IsPrintable)
    (hrest : IsProgram rest) : IsProgram (function.tokens runtime ++ rest) := by
  have hbody := isBody_callTokens hruntime hprintable.callees
  obtain ⟨signature, hsignature, htokens⟩ :=
    exists_registrarTokens_eq hruntime function.name reference _ .reference
  rw [RegistrationFunction.tokens, htokens]
  exact isProgram_documented (.escaped _) (.plain hprintable.name hsignature hbody) hrest

/-! ### Programs -/

/-- A function of a program whose names are identifiers and whose paths can be values. -/
def GeneratedItem.IsPrintable : GeneratedItem → Prop
  | .dispatch function => function.IsPrintable
  | .registration function => function.IsPrintable

theorem isProgram_itemTokens (hruntime : IsValuePath runtime) {items : List GeneratedItem}
    {tokens : List Token} (hprintable : ∀ item ∈ items, item.IsPrintable)
    (htokens : itemTokens runtime items = .ok tokens) : IsProgram tokens := by
  induction items generalizing tokens with
  | nil =>
      cases htokens
      exact .nothing
  | cons first items ih =>
      obtain ⟨hfirst, hmore⟩ := List.forall_mem_cons.mp hprintable
      obtain ⟨item, hitem, htokens⟩ := bind_eq_ok_iff.mp htokens
      obtain ⟨others, hothers, htokens⟩ := bind_eq_ok_iff.mp htokens
      cases htokens
      have hrest := ih hmore hothers
      cases first with
      | dispatch function => exact function.isProgram_tokens hruntime hfirst hitem hrest
      | registration function =>
          cases hitem
          exact RegistrationFunction.isProgram_tokens hruntime hfirst hrest

/-- A program whose names are identifiers and whose paths can be values. -/
structure GeneratedProgram.IsPrintable (program : GeneratedProgram) : Prop where
  entry : IsIdentifier program.entry
  calls : ∀ name ∈ program.calls, IsIdentifier name
  items : ∀ item ∈ program.items, item.IsPrintable

theorem isBody_entryCallTokens {names : List String}
    (hnames : ∀ name ∈ names, IsIdentifier name) : IsBody (names.flatMap entryCallTokens) := by
  induction names with
  | nil => exact .nothing
  | cons first names ih =>
      obtain ⟨hfirst, hmore⟩ := List.forall_mem_cons.mp hnames
      have hregistry : ∀ {name : String}, isPlainIdentifier name = true →
          IsExpression [word name] := fun hname =>
        isExpression_name (isIdentifier_of_isPlainIdentifier hname)
      have harguments : ∀ argument ∈ [[word "router"], reference [word "converters"],
          reference [word "providers"]], IsExpression argument := by
        simp only [List.forall_mem_cons]
        exact ⟨hregistry (by decide +kernel), .reference (hregistry (by decide +kernel)),
          .reference (hregistry (by decide +kernel)), List.forall_mem_nil _⟩
      rw [List.flatMap_cons, entryCallTokens, List.append_assoc]
      exact .statement (isExpression_call (isExpression_name hfirst) harguments) (ih hmore)

/-- What is printed in front of the entry point. -/
def entryFront : List Token :=
  documentation "r\" Register every compiled route against `router`.\"" ++
    (documentation "r\"\"" ++
      (documentation "r\" Call once, after all converters and providers are registered.\"" ++
        (allowUnused ++ [word "pub"])))

/-- A program that is printed has a name at its entry point, and the other functions stand behind
this. -/
theorem GeneratedProgram.exists_tokens_eq {program : GeneratedProgram} {runtimePath : String}
    {tokens : List Token} (htokens : program.tokens runtimePath = .ok tokens) :
    isBareName (unraw program.entry) = true ∧ ∃ runtime items,
      pathTokens runtimePath = .ok runtime ∧ itemTokens runtime program.items = .ok items ∧
        tokens = entryFront ++ (registrarTokens runtime program.entry id
          (program.calls.flatMap entryCallTokens) ++ items) := by
  rw [GeneratedProgram.tokens] at htokens
  obtain ⟨runtime, hruntime, htokens⟩ := bind_eq_ok_iff.mp htokens
  obtain ⟨items, hitems, htokens⟩ := bind_eq_ok_iff.mp htokens
  obtain ⟨entry, hentry, htokens⟩ := bind_eq_ok_iff.mp htokens
  cases htokens
  rw [entryName] at hentry
  split_ifs at hentry with hbare
  cases hentry
  exact ⟨hbare, runtime, items, hruntime, hitems, rfl⟩

/-- A program is printed as functions, one behind the other. -/
theorem GeneratedProgram.isProgram_tokens (hruntime : IsValuePath runtime)
    {program : GeneratedProgram} {runtimePath : String} {tokens : List Token}
    (hprintable : program.IsPrintable) (hpath : pathTokens runtimePath = .ok runtime)
    (htokens : program.tokens runtimePath = .ok tokens) : IsProgram tokens := by
  obtain ⟨-, printed, items, hprinted, hitems, rfl⟩ := program.exists_tokens_eq htokens
  obtain rfl := Except.ok.inj (hpath.symm.trans hprinted)
  obtain ⟨signature, hsignature, hregistrar⟩ :=
    exists_registrarTokens_eq hruntime program.entry id (program.calls.flatMap entryCallTokens) id
  have hfunction : IsFunction (word "pub" :: registrarTokens runtime program.entry id
      (program.calls.flatMap entryCallTokens)) := by
    rw [hregistrar]
    exact .published hprintable.entry hsignature (isBody_entryCallTokens hprintable.calls)
  have hattributes : ∀ marked ∈ [
      documentation "r\" Register every compiled route against `router`.\"",
      documentation "r\"\"",
      documentation "r\" Call once, after all converters and providers are registered.\"",
      allowUnused], IsAttribute marked := by
    have hraw : ∀ text : String, '"' ∉ text.toList → '\r' ∉ text.toList →
        IsAttribute (documentation ("r\"" ++ text ++ "\"")) := fun text hquote hreturn =>
      .documentation (.raw hquote hreturn)
    have hfirst := hraw " Register every compiled route against `router`."
      (by decide +kernel) (by decide +kernel)
    have hblank := hraw "" (by decide +kernel) (by decide +kernel)
    have hlast := hraw " Call once, after all converters and providers are registered."
      (by decide +kernel) (by decide +kernel)
    have hlint : IsIdentifier "unused_variables" :=
      isIdentifier_of_isPlainIdentifier (by decide +kernel)
    simp only [List.forall_mem_cons]
    exact ⟨hfirst, hblank, hlast, .allow hlint, List.forall_mem_nil _⟩
  have hprogram := IsProgram.function hattributes hfunction
    (isProgram_itemTokens hruntime hprintable.items hitems)
  simpa [entryFront] using hprogram

end MarkedRoutes
