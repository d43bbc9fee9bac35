import MarkedRoutes.Proofs.Http.RequestIdText
import MarkedRoutes.Serving.Router

/-!
# Answers carry the ids of their requests

Whatever becomes of a request, its answer has one header of ids, with the text of the id of the
request.  A header of that name from a handler, however it is written, gives way to it, and
nothing else of what the handler answers is touched.  A message that brings the text of an id
gets this text back.
-/

namespace MarkedRoutes.Serving

open MarkedRoutes.Http

variable {σ : Type}

/-! ### Answers without ids -/

/-- What a router makes of a request before the id is added: the answer when no route matches,
or what the endpoint of the first matching route gives, with the state that it leaves. -/
inductive Router.Answers (router : Router (StateM σ)) (request : Request) (state : σ) :
    Response → σ → Prop
  | unmatched (hnone : router.find? request.method request.path = none) :
      router.Answers request state Router.notFound state
  | response {found : RouteMatch (StateM σ)} {response : Response} {after : σ}
      (hfound : router.find? request.method request.path = some found)
      (hrun : ((found.endpoint (request.withPathParameters found.pathParameters)).run).run state =
        (.ok response, after)) :
      router.Answers request state response after
  | fault {found : RouteMatch (StateM σ)} {fault : DispatchFault} {after : σ}
      (hfound : router.find? request.method request.path = some found)
      (hrun : ((found.endpoint (request.withPathParameters found.pathParameters)).run).run state =
        (.error fault, after)) :
      router.Answers request state (.ofFault fault) after

/-- Exactly one thing can be answered. -/
theorem Router.Answers.unique {router : Router (StateM σ)} {request : Request}
    {state after other : σ}
    {first second : Response} (hfirst : router.Answers request state first after)
    (hsecond : router.Answers request state second other) : first = second ∧ after = other := by
  cases hfirst <;> cases hsecond <;> grind

/-! ### Stamped responses -/

/-- Whether a header of a response is one of ids, ignoring case. -/
def isIdHeader (header : String × String) : Bool :=
  Text.sameFolded header.1 RequestId.headerName

/-- A response is another one with a text in the one header of ids. -/
structure IsStamped (text : String) (answer stamped : Response) : Prop where
  status_eq : stamped.status = answer.status
  body_eq : stamped.body = answer.body
  idHeaders : ∃ name, stamped.headers.filter isIdHeader = [(name, text)]
  otherHeaders : (stamped.headers.filter fun header => !isIdHeader header) =
    answer.headers.filter fun header => !isIdHeader header

theorem isStamped_stamp (id : RequestId) (answer : Response) :
    IsStamped id.text answer (Router.stamp id answer) := by
  have hown : isIdHeader (RequestId.headerName, id.text) = true := by
    rw [isIdHeader, Text.sameFolded_iff]
  have hheaders : (Router.stamp id answer).headers =
      (answer.headers.filter fun header => !isIdHeader header) ++
        [(RequestId.headerName, id.text)] := rfl
  refine ⟨rfl, rfl, ⟨RequestId.headerName, ?_⟩, ?_⟩
  · have hnone : ((answer.headers.filter fun header => !isIdHeader header).filter isIdHeader) =
        [] := by
      rw [List.filter_eq_nil_iff]
      intro header hmem
      simpa using (List.mem_filter.mp hmem).2
    rw [hheaders, List.filter_append, hnone, List.filter_singleton, hown]
    rfl
  · rw [hheaders, List.filter_append, List.filter_filter, List.filter_singleton, hown]
    simp only [Bool.and_self, Bool.not_true, cond_false, List.append_nil]

/-! ### Dispatching -/

/-- The response to what an endpoint made of a request. -/
def responseOf : Except DispatchFault Response → Response
  | .ok response => response
  | .error fault => .ofFault fault

theorem settle_fst_eq (id : RequestId) (template : String)
    (outcome : Except DispatchFault Response) :
    (Router.settle id template outcome).1 = responseOf outcome := by
  cases outcome <;> rfl

/-- A request that is routed is answered by what the endpoint makes of it, with the id of the
request set. -/
theorem Router.exists_dispatch_eq {m : Type → Type} [Monad m] {router : Router m}
    {request : Request} {found : RouteMatch m}
    (hfound : router.find? request.method request.path = some found) :
    ∃ events : Except DispatchFault Response → List Event, router.dispatch request =
      (found.endpoint (request.withPathParameters found.pathParameters)).run >>= fun outcome =>
        pure (stamp request.id (responseOf outcome), events outcome) := by
  have hroute : router.route request.method request.path = (some found, []) := by
    rw [route, hfound]
  refine ⟨fun outcome => (settle request.id found.template outcome).2, ?_⟩
  rw [dispatch, hroute]
  simp only [← settle_fst_eq request.id found.template]
  rfl

theorem Router.dispatch_of_find? {router : Router (StateM σ)} {request : Request}
    {state after : σ} {found : RouteMatch (StateM σ)} {outcome : Except DispatchFault Response}
    (hfound : router.find? request.method request.path = some found)
    (hrun : ((found.endpoint (request.withPathParameters found.pathParameters)).run).run state =
      (outcome, after)) :
    IsStamped request.id.text (responseOf outcome) ((router.dispatch request).run state).1.1 ∧
      ((router.dispatch request).run state).2 = after := by
  obtain ⟨events, hdispatch⟩ := exists_dispatch_eq hfound
  rw [hdispatch, StateT.run_bind, hrun]
  exact ⟨isStamped_stamp request.id (responseOf outcome), rfl⟩

/-- A request is answered by what the router makes of it, stamped with its id. -/
theorem Router.dispatch_isStamped (router : Router (StateM σ)) (request : Request) (state : σ) :
    ∃ answer after, router.Answers request state answer after ∧
      IsStamped request.id.text answer ((router.dispatch request).run state).1.1 ∧
      ((router.dispatch request).run state).2 = after := by
  cases hfind : router.find? request.method request.path with
  | none =>
      have hroute : router.route request.method request.path =
          (none, [event .warning "No route matched" request.method request.path]) := by
        rw [route, hfind]
      rw [dispatch, hroute]
      exact ⟨notFound, state, .unmatched hfind, isStamped_stamp request.id notFound, rfl⟩
  | some found =>
      cases hrun : ((found.endpoint (request.withPathParameters found.pathParameters)).run).run
          state with
      | mk outcome after =>
          obtain ⟨hstamped, hafter⟩ := dispatch_of_find? hfind hrun
          cases outcome with
          | ok response =>
              exact ⟨response, after, .response hfind hrun, hstamped, hafter⟩
          | error fault =>
              exact ⟨.ofFault fault, after, .fault hfind hrun, hstamped, hafter⟩

/-- A router answers every request with the text of the id of the request in the one header of
ids, and otherwise with what it makes of the request.  The text is the one that a message
brings, when its first header of ids has the text of an id. -/
theorem answered_with_id (router : Router (StateM σ)) :
    (∀ request state, ∃ answer after, router.Answers request state answer after ∧
      IsStamped request.id.text answer ((router.dispatch request).run state).1.1 ∧
      ((router.dispatch request).run state).2 = after) ∧
    ∀ (minted : RequestId) (message : Message) (state : σ) (header : Header) (id : RequestId),
      (message.headers.find? fun header => header.hasName RequestId.headerName) = some header →
      header.value = Text.bytesOf id.text →
      ∃ answer after, router.Answers (.ofMessage minted message) state answer after ∧
        IsStamped id.text answer ((router.handle minted message).run state).1.1 ∧
        ((router.handle minted message).run state).2 = after := by
  refine ⟨router.dispatch_isStamped, fun minted message state header id hheader hvalue => ?_⟩
  have hid : (Request.ofMessage minted message).id = id :=
    Message.requestId_eq hheader hvalue minted
  obtain ⟨answer, after, hanswers, hstamped, hafter⟩ :=
    router.dispatch_isStamped (.ofMessage minted message) state
  rw [hid] at hstamped
  exact ⟨answer, after, hanswers, hstamped, hafter⟩

theorem isToken_visit : isToken "GET" = true := rfl

def visitMethod : RequestMethod := ⟨"GET", isToken_visit⟩

/-- A router whose one handler spells the header of ids in two ways, and counts its calls. -/
def spellingRouter [PatternEngine] : Router (StateM ℕ) :=
  ((Router.empty : Router (StateM ℕ)).register visitMethod "/visits" fun _ => do
    modify (· + 1)
    return ⟨.created, [("X-Request-ID", "first"), ("etag", "7"), ("x-request-Id", "second")],
      .null⟩).1

/-- A message whose first header of ids has the text of an id, and the second one has not. -/
def spelledMessage : Message :=
  ⟨visitMethod, "/visits", [⟨"X-REQUEST-ID", Text.bytesOf "0000000000000000000000001Z"⟩,
    ⟨"x-request-id", Text.bytesOf "second"⟩], []⟩

section Unlimited

attribute [local instance] PatternEngine.unlimited

theorem answered_with_id_spelled :
    ∃ answer after, spellingRouter.Answers (.ofMessage (.ofNat 0) spelledMessage) 4 answer after ∧
      IsStamped "0000000000000000000000001Z" answer
        ((spellingRouter.handle (.ofNat 0) spelledMessage).run 4).1.1 ∧
      ((spellingRouter.handle (.ofNat 0) spelledMessage).run 4).2 = after := by
  have htext : (RequestId.ofNat 63).text = "0000000000000000000000001Z" := by decide
  rw [← htext]
  exact (answered_with_id spellingRouter).2 (.ofNat 0) spelledMessage 4
    ⟨"X-REQUEST-ID", Text.bytesOf "0000000000000000000000001Z"⟩ (.ofNat 63) (by decide)
    (by rw [htext])

end Unlimited

end MarkedRoutes.Serving
