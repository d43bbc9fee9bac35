import MarkedRoutes.Proofs.Serving.RequestIds

/-!
# Errors of handlers

A client sees of a handler's error the status and the message of its outermost layer with a
status.  Of an error without such a layer the client sees nothing: all of them have one and the
same answer, up to the id of the request.
-/

namespace MarkedRoutes.Serving

open MarkedRoutes.Http

/-! ### Layers -/

theorem ErrorLayer.statusError?_eq_some_iff {layer : ErrorLayer} {found : StatusError} :
    layer.statusError? = some found ↔ layer = .status found := by
  cases layer <;> simp [statusError?]

namespace HandlerError

/-- Some layer of the error carries a status. -/
def IsClassified (error : HandlerError) : Prop := ∃ found, ErrorLayer.status found ∈ error.layers

/-- A status with its message stands in a layer of the error, and none outside of it. -/
def IsOutermost (error : HandlerError) (found : StatusError) : Prop :=
  ∃ outer inner, error.layers = outer ++ .status found :: inner ∧
    ∀ other, ErrorLayer.status other ∉ outer

theorem statusError?_eq_some_iff {error : HandlerError} {found : StatusError} :
    error.statusError? = some found ↔ error.IsOutermost found := by
  rw [statusError?, List.findSome?_eq_some_iff, IsOutermost]
  constructor
  · rintro ⟨outer, layer, inner, hlayers, hlayer, houter⟩
    rw [ErrorLayer.statusError?_eq_some_iff] at hlayer
    subst hlayer
    exact ⟨outer, inner, hlayers, fun other hmem => by cases houter _ hmem⟩
  · rintro ⟨outer, inner, hlayers, houter⟩
    refine ⟨outer, .status found, inner, hlayers, rfl, fun layer hmem => ?_⟩
    cases layer with
    | status other => exact absurd hmem (houter other)
    | plain message => rfl

theorem statusError?_eq_none_iff {error : HandlerError} :
    error.statusError? = none ↔ ¬ error.IsClassified := by
  rw [statusError?, List.findSome?_eq_none_iff, IsClassified, not_exists]
  constructor
  · intro hnone found hmem
    cases hnone _ hmem
  · intro hnone layer hmem
    cases layer with
    | status found => exact absurd hmem (hnone found)
    | plain message => rfl

theorem IsClassified.exists_isOutermost {error : HandlerError} (hclassified : error.IsClassified) :
    ∃ found, error.IsOutermost found := by
  cases hfound : error.statusError? with
  | none => exact absurd hclassified (statusError?_eq_none_iff.mp hfound)
  | some found => exact ⟨found, statusError?_eq_some_iff.mp hfound⟩

end HandlerError

/-! ### Answers -/

/-- The answer to every request whose handler fails for a reason that carries no status. -/
def internalFailure : Response :=
  ⟨.internalError, [("content-type", "application/json")],
    .object [("error", .string "internal server error")]⟩

theorem HandlerError.IsOutermost.status_eq {error : HandlerError} {found : StatusError}
    (houtermost : error.IsOutermost found) :
    (DispatchFault.handler error).status = found.status := by
  rw [DispatchFault.status, statusError?_eq_some_iff.mpr houtermost]
  rfl

theorem HandlerError.IsOutermost.ofFault_eq {error : HandlerError} {found : StatusError}
    (houtermost : error.IsOutermost found) :
    Response.ofFault (.handler error) = .error found.status found.message := by
  rw [Response.ofFault, houtermost.status_eq, DispatchFault.publicMessage,
    statusError?_eq_some_iff.mpr houtermost]
  rfl

theorem HandlerError.status_eq_internalError {error : HandlerError}
    (hunclassified : ¬ error.IsClassified) :
    (DispatchFault.handler error).status = .internalError := by
  rw [DispatchFault.status, statusError?_eq_none_iff.mpr hunclassified]
  rfl

theorem HandlerError.ofFault_eq_internalFailure {error : HandlerError}
    (hunclassified : ¬ error.IsClassified) :
    Response.ofFault (.handler error) = internalFailure := by
  rw [Response.ofFault, status_eq_internalError hunclassified, DispatchFault.publicMessage,
    statusError?_eq_none_iff.mpr hunclassified]
  rfl

/-! ### Requests whose handlers fail -/

variable {σ τ : Type}

/-- The first route that matches a request fails, in a state, with an error of its handler. -/
def Router.FailsWith (router : Router (StateM σ)) (request : Request) (state : σ)
    (error : HandlerError) : Prop :=
  ∃ found after, router.find? request.method request.path = some found ∧
    ((found.endpoint (request.withPathParameters found.pathParameters)).run).run state =
      (.error (.handler error), after)

def Router.answer (router : Router (StateM σ)) (request : Request) (state : σ) : Response :=
  ((router.dispatch request).run state).1.1

theorem Router.FailsWith.answer_eq {router : Router (StateM σ)} {request : Request} {state : σ}
    {error : HandlerError} (hfails : router.FailsWith request state error) :
    router.answer request state = stamp request.id (.ofFault (.handler error)) := by
  obtain ⟨found, after, hfound, hrun⟩ := hfails
  obtain ⟨events, hdispatch⟩ := exists_dispatch_eq hfound
  rw [answer, hdispatch, StateT.run_bind, hrun]
  rfl

/-- A handler that fails, while it loads something, with the text that it finds there. -/
def failingEndpoint : Endpoint (StateM String) := fun _ => do
  let text ← get
  throw (.handler ((HandlerError.ofLayer (.plain text)).within (.plain "loading")))

/-- A router with this handler alone. -/
def failingRouter [PatternEngine] : Router (StateM String) :=
  ((Router.empty : Router (StateM String)).register visitMethod "/visits" failingEndpoint).1

def visitRequest (number : ℕ) : Request := .ofTarget (.ofNat number) visitMethod "/visits"

section Unlimited

attribute [local instance] PatternEngine.unlimited

theorem failsWith_text (number : ℕ) (text : String) :
    failingRouter.FailsWith (visitRequest number) text
      ((HandlerError.ofLayer (.plain text)).within (.plain "loading")) := by
  have hpath : (visitRequest number).path = "/visits" := rfl
  have hfound : failingRouter.find? visitMethod "/visits" =
      some ⟨"/visits", [], failingEndpoint⟩ := rfl
  exact ⟨_, text, hpath ▸ hfound, rfl⟩

theorem not_isClassified_text (text : String) :
    ¬ ((HandlerError.ofLayer (.plain text)).within (.plain "loading")).IsClassified := by
  rintro ⟨found, hmem⟩
  simp [HandlerError.layers, HandlerError.within, HandlerError.ofLayer] at hmem

end Unlimited

end MarkedRoutes.Serving
