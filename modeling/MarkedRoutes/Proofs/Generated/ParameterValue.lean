import MarkedRoutes.Generated.Execution

/-!
# Values of parameters

What becomes of one parameter when its step is evaluated is stated by rules:
which value it is bound to, or which fault ends the run.  Whether the value of a
parameter can be given to a handler's parameter of some type is what a compiler
checks; then evaluating the step follows the rules.
-/

namespace MarkedRoutes

open MarkedRoutes.Http
open MarkedRoutes.Serving

variable {κ σ : Type} [HostTypes κ] [DecidableEq κ]

/-- The converter that reads the text of a parameter, if there is one. -/
def converterOf? (surroundings : Surroundings κ σ) (parameter : ResolvedParameter)
    (type : TypeCode κ) : Option (Converter type.Carrier) :=
  match parameter.source with
  | .namedConverter path => surroundings.converter? path type
  | _ => surroundings.registries.converters.get? type

/-- The value that a converter reads from the text of a parameter, if there is one. -/
def readText? (request : Request) (parameter : ResolvedParameter) {type : TypeCode κ}
    (converter : Converter type.Carrier) : Option type.Carrier :=
  (sourceText? request parameter.kind.textSource parameter.boundName).bind converter.read

/-- What becomes of a parameter whose variable has a type: the argument that it is bound to,
or the fault that ends the run. -/
inductive Evaluates (surroundings : Surroundings κ σ) (request : Request)
    (parameter : ResolvedParameter) : ParameterType κ → Except DispatchFault (Argument κ) → Prop
  | provided {type : TypeCode κ} {provider : Provider type.Carrier}
      (hkind : parameter.kind = .provided)
      (hprovider : surroundings.registries.providers.get? type = some provider) :
      Evaluates surroundings request parameter (.value type) (.ok (.value type (provider request)))
  | missingProvider {type : TypeCode κ} (hkind : parameter.kind = .provided)
      (hprovider : surroundings.registries.providers.get? type = none) :
      Evaluates surroundings request parameter (.value type)
        (.error (.missingProvider type.name))
  | missingConverter {type : TypeCode κ} (hkind : parameter.kind.isText = true)
      (hconverter : converterOf? surroundings parameter type = none) :
      Evaluates surroundings request parameter (.value type)
        (.error (.missingConverter type.name))
  | read {type : TypeCode κ} {converter : Converter type.Carrier} {value : type.Carrier}
      (hkind : parameter.kind.isText = true)
      (hconverter : converterOf? surroundings parameter type = some converter)
      (hread : readText? request parameter converter = some value) :
      Evaluates surroundings request parameter (.value type) (.ok (.value type value))
  | unreadable {type : TypeCode κ} {converter : Converter type.Carrier}
      (hkind : parameter.kind.isText = true)
      (hconverter : converterOf? surroundings parameter type = some converter)
      (hread : readText? request parameter converter = none)
      (hrequired : parameter.isRequired = true) :
      Evaluates surroundings request parameter (.value type)
        (.error (.parameter parameter.boundName parameter.kind.textSource))
  | absent {type : TypeCode κ} {converter : Converter type.Carrier}
      (hkind : parameter.kind.isText = true)
      (hconverter : converterOf? surroundings parameter type = some converter)
      (hread : readText? request parameter converter = none)
      (hrequired : parameter.isRequired = false) :
      Evaluates surroundings request parameter (.value type) (.ok .absent)
  | request (hkind : parameter.kind = .pipeline) :
      Evaluates surroundings request parameter .request (.ok (.request request))
  | body {type : BodyType Json} {value : Json} (hkind : parameter.kind = .body)
      (hdecode : Json.decode type.decoder (bodyBytes request) = .ok value) :
      Evaluates surroundings request parameter (.body type) (.ok (.body value))
  | malformedBody {type : BodyType Json} {reason : Json.PlacedFault}
      (hkind : parameter.kind = .body)
      (hdecode : Json.decode type.decoder (bodyBytes request) = .error reason) :
      Evaluates surroundings request parameter (.body type)
        (.error (.malformedBody type.name reason))

/-- Whether the value of a parameter can be given to a handler's parameter of some type: the
kinds agree, and a converter that is named exists. -/
inductive Accepts (surroundings : Surroundings κ σ) (parameter : ResolvedParameter) :
    ParameterType κ → Prop
  | provided {type : TypeCode κ} (hkind : parameter.kind = .provided) :
      Accepts surroundings parameter (.value type)
  | text {type : TypeCode κ} (hkind : parameter.kind.isText = true)
      (hconverter : ∀ path, parameter.source = .namedConverter path →
        (surroundings.converter? path type).isSome = true) :
      Accepts surroundings parameter (.value type)
  | request (hkind : parameter.kind = .pipeline) : Accepts surroundings parameter .request
  | body {type : BodyType Json} (hkind : parameter.kind = .body) :
      Accepts surroundings parameter (.body type)

theorem value_of_source {surroundings : Surroundings κ σ} {request : Request} {step : Step}
    {type : ParameterType κ} {source : ArgumentSource κ}
    (hsource : step.source? surroundings type = some source) :
    step.value surroundings request type =
      (source.bind surroundings.registries request).mapError Stop.fault := by
  rw [Step.value, hsource]
  rfl

theorem convert_eq (registries : Registries κ) (type : TypeCode κ) (text : Option String)
    (name : String) (source : TextSource) :
    convert registries type text name source =
      match registries.converters.get? type with
      | none => .error (.missingConverter type.name)
      | some converter => convertWith converter text name source := by
  rw [convert, registeredConverter]
  cases registries.converters.get? type <;> rfl

theorem convertOptional_eq (registries : Registries κ) (type : TypeCode κ)
    (text : Option String) :
    convertOptional registries type text =
      match registries.converters.get? type with
      | none => .error (.missingConverter type.name)
      | some converter => .ok (convertOptionalWith converter text) := by
  rw [convertOptional, registeredConverter]
  cases registries.converters.get? type <;> rfl

/-- A text is read by the named converter, or else by the registered one, and only a required
text has to be read. -/
theorem bindText_eq (registries : Registries κ) (parameter : TextParameter κ)
    (text : Option String) :
    parameter.bindText registries text =
      match parameter.converter.or (registries.converters.get? parameter.type) with
      | none => .error (.missingConverter parameter.type.name)
      | some converter =>
        match convertOptionalWith converter text with
        | some value => .ok (.value parameter.type value)
        | none =>
          if parameter.isRequired then .error (.parameter parameter.name parameter.source)
          else .ok .absent := by
  obtain ⟨source, name, type, named, isRequired⟩ := parameter
  cases named with
  | some converter =>
      cases isRequired with
      | true =>
          dsimp only [TextParameter.bindText, convertWith, Option.some_or]
          cases convertOptionalWith converter text <;> rfl
      | false =>
          dsimp only [TextParameter.bindText, Option.some_or]
          cases convertOptionalWith converter text <;> rfl
  | none =>
      cases isRequired with
      | true =>
          dsimp only [TextParameter.bindText, Option.none_or]
          rw [convert_eq]
          cases registries.converters.get? type with
          | none => rfl
          | some converter =>
              dsimp only [convertWith]
              cases convertOptionalWith converter text <;> rfl
      | false =>
          dsimp only [TextParameter.bindText, Option.none_or]
          rw [convertOptional_eq]
          cases registries.converters.get? type with
          | none => rfl
          | some converter =>
              dsimp only
              cases convertOptionalWith converter text <;> rfl

/-- Binding the text of a parameter gives what becomes of the parameter. -/
theorem evaluates_bindText {surroundings : Surroundings κ σ} {parameter : ResolvedParameter}
    {type : TypeCode κ} {named : Option (Converter type.Carrier)} (request : Request)
    (hkind : parameter.kind.isText = true)
    (hconverter : converterOf? surroundings parameter type =
      named.or (surroundings.registries.converters.get? type)) :
    Evaluates surroundings request parameter (.value type)
      ((ArgumentSource.text ⟨parameter.kind.textSource, parameter.boundName, type, named,
        parameter.isRequired⟩).bind surroundings.registries request) := by
  rw [ArgumentSource.bind, bindText_eq, ← hconverter]
  cases hfound : converterOf? surroundings parameter type with
  | none => exact .missingConverter hkind hfound
  | some converter =>
      have hsame : convertOptionalWith converter
          (sourceText? request parameter.kind.textSource parameter.boundName) =
          readText? request parameter converter := rfl
      dsimp only
      rw [hsame]
      cases hread : readText? request parameter converter with
      | some value => exact .read hkind hfound hread
      | none =>
          cases hrequired : parameter.isRequired with
          | true => exact .unreadable hkind hfound hread hrequired
          | false => exact .absent hkind hfound hread hrequired

/-- The step of a text parameter. -/
theorem step_of_isText {parameter : ResolvedParameter} (hkind : parameter.kind.isText = true) :
    parameter.step = .convert parameter.argument parameter.kind.textSource parameter.boundName
      parameter.source.textConverter parameter.isRequired := by
  rw [ResolvedParameter.step]
  cases hcase : parameter.kind <;> rw [hcase] at hkind <;> first | rfl | cases hkind

/-- Evaluating the step of a parameter gives what becomes of the parameter. -/
theorem value_step {surroundings : Surroundings κ σ} {parameter : ResolvedParameter}
    {type : ParameterType κ} (haccepts : Accepts surroundings parameter type) (request : Request) :
    ∃ outcome, Evaluates surroundings request parameter type outcome ∧
      parameter.step.value surroundings request type = outcome.mapError Stop.fault := by
  cases haccepts with
  | @provided type hkind =>
      have hstep : parameter.step = .provide parameter.argument := by
        rw [ResolvedParameter.step, hkind]
      rw [hstep, value_of_source rfl, ArgumentSource.bind, provide]
      cases hprovider : surroundings.registries.providers.get? type with
      | none => exact ⟨_, .missingProvider hkind hprovider, rfl⟩
      | some provider => exact ⟨_, .provided hkind hprovider, rfl⟩
  | @text type hkind hnamed =>
      rw [step_of_isText hkind]
      by_cases hnames : ∃ path, parameter.source = .namedConverter path
      · obtain ⟨path, hsource⟩ := hnames
        obtain ⟨converter, hconverter⟩ := Option.isSome_iff_exists.mp (hnamed path hsource)
        refine ⟨_, @evaluates_bindText _ _ _ _ _ _ _ (some converter) request hkind ?_, ?_⟩
        · rw [converterOf?, hsource]
          exact hconverter
        · rw [hsource, ValueSource.textConverter]
          apply value_of_source
          rw [Step.source?, hconverter]
          rfl
      · have hregistered : parameter.source.textConverter = .registered := by
          cases hsource : parameter.source <;> first | rfl | exact absurd ⟨_, hsource⟩ hnames
        rw [hregistered]
        refine ⟨_, @evaluates_bindText _ _ _ _ _ _ _ none request hkind ?_, value_of_source rfl⟩
        rw [converterOf?]
        cases hsource : parameter.source <;> first | rfl | exact absurd ⟨_, hsource⟩ hnames
  | request hkind =>
      have hstep : parameter.step = .context parameter.argument := by
        rw [ResolvedParameter.step, hkind]
      rw [hstep]
      exact ⟨_, .request hkind, rfl⟩
  | @body type hkind =>
      have hstep : parameter.step = .receive parameter.argument := by
        rw [ResolvedParameter.step, hkind]
      rw [hstep, value_of_source rfl, ArgumentSource.bind, receive]
      cases hdecode : Json.decode type.decoder (bodyBytes request) with
      | error reason => exact ⟨_, .malformedBody hkind hdecode, rfl⟩
      | ok value => exact ⟨_, .body hkind hdecode, rfl⟩

end MarkedRoutes
