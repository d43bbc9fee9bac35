import MarkedRoutes.Generated.Execution
import MarkedRoutes.Proofs.Generated.ReadBack

/-!
# Programs that are printed alike

What a program does depends on its tokens alone, as long as what stands at a path depends on the
tokens of the path.  Dispatch functions that are printed alike answer every request alike, and
programs that are printed alike register such functions at the same places in the same order.
-/

namespace MarkedRoutes

open MarkedRoutes.Http
open MarkedRoutes.Serving
open MarkedRoutes.Source

variable [SourceParser]

/-! ### Alike -/

/-- Both are told by their tokens, and alike. -/
def ToldAlike {α τ : Type} (told : α → Except NameFault τ) (first second : α) : Prop :=
  ∃ tokens, told first = .ok tokens ∧ told second = .ok tokens

omit [SourceParser] in
theorem forall₂_of_mapM_eq {α τ : Type} {told : α → Except NameFault τ} {first second : List α}
    {tokens : List τ} (hfirst : first.mapM told = .ok tokens)
    (hsecond : second.mapM told = .ok tokens) :
    List.Forall₂ (ToldAlike told) first second := by
  induction first generalizing second tokens with
  | nil =>
      cases hfirst
      cases second with
      | nil => exact .nil
      | cons one second =>
          rw [List.mapM_cons] at hsecond
          obtain ⟨head, -, hsecond⟩ := bind_eq_ok_iff.mp hsecond
          obtain ⟨tail, -, hsecond⟩ := bind_eq_ok_iff.mp hsecond
          cases hsecond
  | cons one first ih =>
      rw [List.mapM_cons] at hfirst
      obtain ⟨head, hone, hfirst⟩ := bind_eq_ok_iff.mp hfirst
      obtain ⟨tail, hrest, hfirst⟩ := bind_eq_ok_iff.mp hfirst
      cases hfirst
      cases second with
      | nil => cases hsecond
      | cons other second =>
          rw [List.mapM_cons] at hsecond
          obtain ⟨head, hother, hsecond⟩ := bind_eq_ok_iff.mp hsecond
          obtain ⟨tail, hmore, hsecond⟩ := bind_eq_ok_iff.mp hsecond
          cases hsecond
          exact .cons ⟨_, hone, hother⟩ (ih hrest hmore)

/-! ### Runs -/

section

variable {κ σ : Type} [HostTypes κ] [DecidableEq κ] {surroundings : Surroundings κ σ}

/-- What stands at a path depends on the tokens of the path. -/
structure Surroundings.KnowsTokens (surroundings : Surroundings κ σ) : Prop where
  handler : ∀ first second, ToldAlike pathTokens first second →
    surroundings.handler? first = surroundings.handler? second
  converter : ∀ first second, ToldAlike pathTokens first second →
    surroundings.converter? first = surroundings.converter? second

theorem TextConverter.told_eq_ok_iff {converter : TextConverter} {path : Option (List Token)} :
    converter.told = .ok path ↔ match path with
      | none => converter = .registered
      | some tokens => ∃ text, converter = .named text ∧ pathTokens text = .ok tokens := by
  cases converter <;> cases path <;> simp [told, map_eq_ok_iff]

theorem Step.told_eq_ok_iff {step : Step} {told : ToldStep} :
    step.told = .ok told ↔ match told with
      | .provide target => step = .provide target
      | .convert target source key path isRequired => ∃ converter,
          step = .convert target source key converter isRequired ∧ converter.told = .ok path
      | .context target => step = .context target
      | .receive target => step = .receive target := by
  cases step <;> cases told <;> simp [Step.told, map_eq_ok_iff]
  exact and_comm

/-- Steps that are told alike bind the same variable to the same value. -/
theorem ToldAlike.step (hknows : surroundings.KnowsTokens) {first second : Step}
    (halike : ToldAlike Step.told first second) :
    first.target = second.target ∧ ∀ request : Request,
      first.value surroundings request = second.value surroundings request := by
  obtain ⟨told, hfirst, hsecond⟩ := halike
  rw [Step.told_eq_ok_iff] at hfirst hsecond
  cases told with
  | provide target =>
      obtain rfl : first = second := hfirst.trans hsecond.symm
      exact ⟨rfl, fun _ => rfl⟩
  | context target =>
      obtain rfl : first = second := hfirst.trans hsecond.symm
      exact ⟨rfl, fun _ => rfl⟩
  | receive target =>
      obtain rfl : first = second := hfirst.trans hsecond.symm
      exact ⟨rfl, fun _ => rfl⟩
  | convert target source key path isRequired =>
      obtain ⟨one, rfl, hone⟩ := hfirst
      obtain ⟨other, rfl, hother⟩ := hsecond
      refine ⟨rfl, fun request => ?_⟩
      rw [TextConverter.told_eq_ok_iff] at hone hother
      cases path with
      | none =>
          obtain rfl : one = other := hone.trans hother.symm
          rfl
      | some tokens =>
          obtain ⟨one, rfl, hone⟩ := hone
          obtain ⟨other, rfl, hother⟩ := hother
          have hsame := hknows.converter one other ⟨tokens, hone, hother⟩
          funext type
          cases type <;> simp only [Step.value, Step.source?, hsame]

theorem runSteps_snd_eq (hknows : surroundings.KnowsTokens) {first second : List Step}
    (halike : List.Forall₂ (ToldAlike Step.told) first second)
    (types : List (String × ParameterType κ)) (request : Request) (bindings : Bindings κ) :
    (runSteps surroundings types request bindings first).2 =
      (runSteps surroundings types request bindings second).2 := by
  induction halike generalizing bindings with
  | nil => rfl
  | cons hone _ ih =>
      obtain ⟨htarget, hvalue⟩ := hone.step hknows
      rw [runSteps, runSteps, htarget, hvalue]
      cases (fitting (types.lookup _)).bind (Step.value surroundings request _) with
      | error stop => rfl
      | ok value => exact ih _

/-- What dispatch functions that are told alike have in common. -/
structure DispatchFunction.Agree (first second : DispatchFunction) : Prop where
  name : first.name = second.name
  steps : List.Forall₂ (ToldAlike Step.told) first.steps second.steps
  handlerPath : ToldAlike pathTokens first.handlerPath second.handlerPath
  arguments : first.arguments = second.arguments
  isAsync : first.isAsync = second.isAsync
  returns : first.returns = second.returns

theorem ToldAlike.agree {first second : DispatchFunction}
    (halike : ToldAlike DispatchFunction.told first second) : first.Agree second := by
  obtain ⟨told, hfirst, hsecond⟩ := halike
  obtain ⟨steps, hsteps, hfirst⟩ := bind_eq_ok_iff.mp hfirst
  obtain ⟨handler, hhandler, hfirst⟩ := bind_eq_ok_iff.mp hfirst
  cases hfirst
  obtain ⟨others, hothers, hsecond⟩ := bind_eq_ok_iff.mp hsecond
  obtain ⟨other, hother, hsecond⟩ := bind_eq_ok_iff.mp hsecond
  simp only [Except.ok.injEq, ToldDispatch.mk.injEq] at hsecond
  obtain ⟨hname, rfl, rfl, harguments, hasync, hreturns⟩ := hsecond
  exact ⟨hname.symm, forall₂_of_mapM_eq hsteps hothers, ⟨_, hhandler, hother⟩, harguments.symm,
    hasync.symm, hreturns.symm⟩

/-- Dispatch functions that are told alike end alike, and leave the same state. -/
theorem DispatchFunction.Agree.run_eq (hknows : surroundings.KnowsTokens)
    {first second : DispatchFunction} (hagree : first.Agree second) (request : Request)
    (state : σ) :
    (first.run surroundings request state).result = (second.run surroundings request state).result ∧
      (first.run surroundings request state).state =
        (second.run surroundings request state).state := by
  have hhandler : first.handler surroundings = second.handler surroundings := by
    rw [DispatchFunction.handler, hknows.handler _ _ hagree.handlerPath]
    simp only [DispatchFunction.handler, DispatchFunction.calls, hagree.arguments, hagree.isAsync,
      hagree.returns]
    rfl
  rw [DispatchFunction.run, DispatchFunction.run, hhandler]
  cases second.handler surroundings with
  | error stop => exact ⟨rfl, rfl⟩
  | ok handler =>
      have htypes : first.variableTypes handler = second.variableTypes handler := by
        rw [DispatchFunction.variableTypes, hagree.arguments]
        rfl
      have hbound : first.boundArguments (κ := κ) = second.boundArguments := by
        funext bindings
        rw [DispatchFunction.boundArguments, hagree.arguments]
        rfl
      have hruns := runSteps_snd_eq hknows hagree.steps (second.variableTypes handler) request []
      dsimp only
      rw [htypes, hruns, hbound, hagree.returns]
      cases (runSteps surroundings (second.variableTypes handler) request [] second.steps).2.bind
          second.boundArguments with
      | error stop => exact ⟨rfl, rfl⟩
      | ok arguments => exact ⟨rfl, rfl⟩

end

/-! ### Registration -/

/-- Routes are registered at the same place, with dispatch functions that agree. -/
structure Registration.Agree (first second : Registration) : Prop where
  method : first.method = second.method
  path : first.path = second.path
  function : first.function.Agree second.function

/-- Both are dispatch functions that agree, or registration functions with the same calls. -/
inductive GeneratedItem.Agree : GeneratedItem → GeneratedItem → Prop
  | dispatch {first second : DispatchFunction} (hagree : first.Agree second) :
      Agree (.dispatch first) (.dispatch second)
  | registration {first second : RegistrationFunction} (hname : first.name = second.name)
      (hcalls : first.calls = second.calls) : Agree (.registration first) (.registration second)

theorem ToldAlike.item {first second : GeneratedItem}
    (halike : ToldAlike GeneratedItem.told first second) : first.Agree second := by
  obtain ⟨told, hfirst, hsecond⟩ := halike
  cases first with
  | dispatch one =>
      obtain ⟨function, hone, rfl⟩ := map_eq_ok_iff.mp hfirst
      cases second with
      | dispatch other =>
          obtain ⟨same, hother, hsame⟩ := map_eq_ok_iff.mp hsecond
          cases hsame
          exact .dispatch (ToldAlike.agree ⟨_, hone, hother⟩)
      | registration other => cases hsecond
  | registration one =>
      cases hfirst
      cases second with
      | dispatch other =>
          obtain ⟨same, -, hsame⟩ := map_eq_ok_iff.mp hsecond
          cases hsame
      | registration other =>
          obtain ⟨hname, hcalls⟩ := ToldItem.registration.inj (Except.ok.inj hsecond)
          exact .registration hname.symm hcalls.symm

theorem GeneratedItem.Agree.name_eq {first second : GeneratedItem} (hagree : first.Agree second) :
    first.name = second.name := by
  cases hagree with
  | dispatch hagree => exact hagree.name
  | registration hname _ => exact hname

section

variable {first second : GeneratedProgram}

/-- What programs that are told alike have in common. -/
structure GeneratedProgram.Agree (first second : GeneratedProgram) : Prop where
  entry : first.entry = second.entry
  calls : first.calls = second.calls
  items : List.Forall₂ GeneratedItem.Agree first.items second.items

theorem ToldAlike.program (halike : ToldAlike GeneratedProgram.told first second) :
    first.Agree second := by
  obtain ⟨told, hfirst, hsecond⟩ := halike
  obtain ⟨items, hitems, hfirst⟩ := bind_eq_ok_iff.mp hfirst
  cases hfirst
  obtain ⟨others, hothers, hsecond⟩ := bind_eq_ok_iff.mp hsecond
  simp only [Except.ok.injEq, List.cons.injEq, ToldItem.registration.injEq] at hsecond
  obtain ⟨⟨hentry, hcalls⟩, rfl⟩ := hsecond
  refine ⟨hentry.symm, ?_, (forall₂_of_mapM_eq hitems hothers).imp fun _ _ => ToldAlike.item⟩
  exact (List.map_injective_iff.mpr fun _ _ => RegistrationCall.group.inj) hcalls.symm

omit [SourceParser] in
theorem rel_bind {α β γ δ : Type} {R : α → β → Prop} {S : γ → δ → Prop} {one : Option α}
    {other : Option β} {next : α → Option γ} {after : β → Option δ}
    (hfirst : Option.Rel R one other)
    (hnext : ∀ first second, R first second → Option.Rel S (next first) (after second)) :
    Option.Rel S (one >>= next) (other >>= after) := by
  cases hfirst with
  | none => exact .none
  | some hboth => exact hnext _ _ hboth

theorem GeneratedProgram.Agree.rel_item? (hagree : first.Agree second) (name : String) :
    Option.Rel GeneratedItem.Agree (first.item? name) (second.item? name) := by
  have hfilter : List.Forall₂ GeneratedItem.Agree
      (first.items.filter fun item => unraw item.name = unraw name)
      (second.items.filter fun item => unraw item.name = unraw name) :=
    List.rel_filter (fun one other (hitem : GeneratedItem.Agree one other) => by
      simp [hitem.name_eq]) hagree.items
  rw [GeneratedProgram.item?, GeneratedProgram.item?, hagree.entry]
  split_ifs
  · exact .none
  · generalize first.items.filter _ = one at hfilter ⊢
    generalize second.items.filter _ = other at hfilter ⊢
    cases hfilter with
    | nil => exact .none
    | cons hitem hrest =>
        cases hrest with
        | nil => exact .some hitem
        | cons _ _ => exact .none

theorem GeneratedProgram.Agree.rel_dispatch? (hagree : first.Agree second) (name : String) :
    Option.Rel DispatchFunction.Agree (first.dispatch? name) (second.dispatch? name) := by
  have hitem := hagree.rel_item? name
  rw [GeneratedProgram.dispatch?, GeneratedProgram.dispatch?]
  generalize first.item? name = one at hitem ⊢
  generalize second.item? name = other at hitem ⊢
  cases hitem with
  | none => exact .none
  | some hitem =>
      cases hitem with
      | dispatch hfunction => exact .some hfunction
      | registration _ _ => exact .none

theorem GeneratedProgram.Agree.rel_registration? (hagree : first.Agree second) (name : String) :
    Option.Rel (fun one other : RegistrationFunction => one.calls = other.calls)
      (first.registration? name) (second.registration? name) := by
  have hitem := hagree.rel_item? name
  rw [GeneratedProgram.registration?, GeneratedProgram.registration?]
  generalize first.item? name = one at hitem ⊢
  generalize second.item? name = other at hitem ⊢
  cases hitem with
  | none => exact .none
  | some hitem =>
      cases hitem with
      | dispatch _ => exact .none
      | registration _ hcalls => exact .some hcalls

theorem GeneratedProgram.Agree.rel_registrationsOf_route (hagree : first.Agree second) {fuel : ℕ}
    {calls : List RegistrationCall} (method : Method) (path dispatch : String)
    (hrest : Option.Rel (List.Forall₂ Registration.Agree) (first.registrationsOf fuel calls)
      (second.registrationsOf fuel calls)) :
    Option.Rel (List.Forall₂ Registration.Agree)
      (first.registrationsOf fuel (.route method path dispatch :: calls))
      (second.registrationsOf fuel (.route method path dispatch :: calls)) := by
  rw [GeneratedProgram.registrationsOf, GeneratedProgram.registrationsOf]
  exact rel_bind (hagree.rel_dispatch? dispatch) fun _ _ hfunction =>
    rel_bind hrest fun _ _ hothers => .some (.cons ⟨rfl, rfl, hfunction⟩ hothers)

/-- Programs that agree register alike, however deep the calls go. -/
theorem GeneratedProgram.Agree.rel_registrationsOf (hagree : first.Agree second) (fuel : ℕ)
    (calls : List RegistrationCall) :
    Option.Rel (List.Forall₂ Registration.Agree) (first.registrationsOf fuel calls)
      (second.registrationsOf fuel calls) := by
  have hnil : ∀ fuel, Option.Rel (List.Forall₂ Registration.Agree) (first.registrationsOf fuel [])
      (second.registrationsOf fuel []) := by
    intro fuel
    rw [GeneratedProgram.registrationsOf, GeneratedProgram.registrationsOf]
    exact .some .nil
  induction fuel generalizing calls with
  | zero =>
      induction calls with
      | nil => exact hnil 0
      | cons call calls ih =>
          cases call with
          | route method path dispatch =>
              exact hagree.rel_registrationsOf_route method path dispatch ih
          | group registration =>
              rw [GeneratedProgram.registrationsOf, GeneratedProgram.registrationsOf]
              exact .none
  | succ fuel ihFuel =>
      induction calls with
      | nil => exact hnil (fuel + 1)
      | cons call calls ih =>
          cases call with
          | route method path dispatch =>
              exact hagree.rel_registrationsOf_route method path dispatch ih
          | group registration =>
              rw [GeneratedProgram.registrationsOf, GeneratedProgram.registrationsOf]
              refine rel_bind (hagree.rel_registration? registration) fun one other hcalls => ?_
              rw [hcalls]
              exact rel_bind (ihFuel _) fun _ _ hinner => rel_bind ih fun _ _ hothers =>
                .some (List.rel_append hinner hothers)

/-- Programs that are printed alike register at the same methods and paths, in the same order,
dispatch functions that answer alike; each is known by what the program's tokens tell. -/
theorem rel_registrations?_of_tokens_eq {runtime tokens : List Token} {runtimePath : String}
    (hruntime : IsSeamless runtime) (hbodiless : IsBodiless runtime)
    (hpath : pathTokens runtimePath = .ok runtime)
    (hfirstHandlers : first.HasSeamlessHandlers) (hsecondHandlers : second.HasSeamlessHandlers)
    (hfirst : first.tokens runtimePath = .ok tokens)
    (hsecond : second.tokens runtimePath = .ok tokens) :
    Option.Rel (List.Forall₂ Registration.Agree) first.registrations? second.registrations? := by
  obtain ⟨told, hone, hread⟩ := readProgram_tokens hruntime hbodiless hpath hfirstHandlers hfirst
  obtain ⟨other, hother, hagain⟩ :=
    readProgram_tokens hruntime hbodiless hpath hsecondHandlers hsecond
  obtain rfl := Option.some.inj (hread.symm.trans hagain)
  have hagree : first.Agree second := ToldAlike.program ⟨told, hone, hother⟩
  rw [GeneratedProgram.registrations?, GeneratedProgram.registrations?, hagree.calls,
    hagree.items.length_eq]
  exact hagree.rel_registrationsOf _ _

end

end MarkedRoutes
