import MarkedRoutes.Proofs.Bookshelf.DateOrder
import MarkedRoutes.Proofs.Bookshelf.Requests
import MarkedRoutes.Proofs.Generated.ParameterValue
import MarkedRoutes.Proofs.Serving.RequestIds

/-!
# The catalog over whole runs

What is answered to a request to the catalog is told by the requests before it.  One request
keeps the store a reflection of what was asked, so along every run of a new service each answer
is what a table of books would give.
-/

namespace MarkedRoutes.Bookshelf

open MarkedRoutes.Http
open MarkedRoutes.Serving

/-! ### Expected answers -/

/-- A book as it is answered: an object with its members sorted by name. -/
def row (book : Book) : Json :=
  .object [("added", .string book.added.text), ("author", .string book.author),
    ("id", .ofNat book.id), ("shelf", .string book.shelf), ("title", .string book.title)]

/-- Some books are the live ones that are chosen, by rising number. -/
structure Lists (past : List Operation) (isChosen : Book → Prop) (books : List Book) : Prop where
  rising : books.Pairwise fun first second => first.id < second.id
  mem_iff : ∀ book, book ∈ books ↔ Live past book ∧ isChosen book

/-- The first books up to a limit, or all when there is none. -/
def upTo (limit : Option ℕ) (books : List Book) : List Book :=
  match limit with
  | some count => books.take count
  | none => books

/-- The status and the body that answer an operation after others. -/
def Expected (past : List Operation) : Operation → Status → Json → Prop
  | .listing author limit, status, body => status = .ok ∧
      ∃ books, Lists past (fun book => ∀ name ∈ author, book.author = name) books ∧
        body = .array ((upTo limit books).map row)
  | .creation new, status, body => status = .created ∧
      body = row (new.withId ((created past).length + 1))
  | .malformed, status, _ => status = .badRequest
  | .showing none, status, _ => status = .badRequest
  | .showing (some id), status, body =>
      (∃ book, Live past book ∧ book.id = id ∧ status = .ok ∧ body = row book) ∨
        (∀ book, Live past book → book.id ≠ id) ∧ status = .notFound
  | .removal none, status, _ => status = .badRequest
  | .removal (some id), status, body =>
      (∃ book, Live past book ∧ book.id = id ∧ status = .ok ∧ body = .null) ∨
        (∀ book, Live past book → book.id ≠ id) ∧ status = .notFound
  | .shelf name since, status, body => status = .ok ∧
      ∃ books, Lists past
          (fun book => book.shelf = name ∧ ∀ date ∈ since, date.key ≤ book.added.key) books ∧
        body = .array (books.map row)

/-! ### Values -/

theorem sorted_json (book : Book) : book.json.sorted = row book := by
  simp [Book.json, Date.json, row, Json.ofNat, Json.sorted, Json.sortedMembers, Json.ofMembers,
    Json.setMember, Text.precedes, Text.charsPrecede]

theorem respond_json (book : Book) : respond (.ok book.json) = .ok (.json .ok (row book)) := by
  rw [respond, sorted_json]
  rfl

theorem respondReply_json (book : Book) :
    respondReply ⟨.created, some (.ok book.json)⟩ = .ok (.json .created (row book)) := by
  rw [respondReply]
  dsimp only
  rw [sorted_json]
  rfl

theorem respond_books (books : List Book) :
    respond (.ok (.array (books.map Book.json))) = .ok (.json .ok (.array (books.map row))) := by
  have hsorted : Json.sortedElements (books.map Book.json) = books.map row := by
    induction books with
    | nil => rw [List.map_nil, Json.sortedElements, List.map_nil]
    | cons book books ih =>
        rw [List.map_cons, Json.sortedElements, sorted_json, ih, List.map_cons]
  rw [respond, Json.sorted, hsorted]
  rfl

/-! ### Parameters -/

theorem converters_get?_text : registries.converters.get? .text = some (.primitive .text) := rfl

theorem converters_get?_integer (type : IntegerType) :
    registries.converters.get? (.integer type) = some (.primitive (.integer type)) := by
  cases type <;> rfl

/-- Every text is read as itself. -/
theorem optionalParameter_text (request : Request) (source : TextSource) (name : String) :
    optionalParameter request source name .text = .ok (sourceText? request source name) := by
  rw [optionalParameter, convertOptional_eq, converters_get?_text]
  cases sourceText? request source name <;> rfl

theorem optionalParameter_integer (request : Request) (source : TextSource) (name : String)
    (type : IntegerType) :
    optionalParameter request source name (.integer type) =
      .ok ((sourceText? request source name).bind (Integer.ofText? type)) := by
  rw [optionalParameter, convertOptional_eq, converters_get?_integer]
  rfl

/-- A text is read by the registered converter, or the request is refused. -/
theorem parameter_of_converter {request : Request} {source : TextSource} {name text : String}
    {type : TypeCode ShelfType} {converter : Converter type.Carrier}
    (hconverter : registries.converters.get? type = some converter)
    (htext : sourceText? request source name = some text) :
    parameter request source name type =
      (converter.read text).elim (.error (.parameter name source)) .ok := by
  have hread : convertOptionalWith converter (some text) = converter.read text := rfl
  rw [parameter, convert_eq, hconverter, htext]
  dsimp only
  rw [convertWith, hread]
  cases converter.read text <;> rfl

theorem parameter_text {request : Request} {source : TextSource} {name text : String}
    (htext : sourceText? request source name = some text) :
    parameter request source name .text = .ok text :=
  parameter_of_converter converters_get?_text htext

theorem parameter_integer {request : Request} {source : TextSource} {name text : String}
    (htext : sourceText? request source name = some text) (type : IntegerType) :
    parameter request source name (.integer type) =
      (Integer.ofText? type text).elim (.error (.parameter name source)) .ok :=
  parameter_of_converter (converters_get?_integer type) htext

/-- The number of a book is read from the path, or the request is refused. -/
theorem bookNumber_eq {request : Request} {text : String}
    (htext : sourceText? request .path "id" = some text) :
    bookNumber request =
      match numberOf? .u64 text with
      | some id => .ok id
      | none => .error (.parameter "id" .path) := by
  rw [bookNumber, parameter_integer htext, numberOf?]
  cases Integer.ofText? .u64 text <;> rfl

/-! ### One request -/

/-- The result of an endpoint is what is expected of an operation after others: it does not
panic, its response is so, and the store reflects the operation, too. -/
structure Serves (past : List Operation) (operation : Operation)
    (result : Option (Except DispatchFault Response) × Store) : Prop where
  answered : ∃ outcome ∈ result.1,
    Expected past operation (responseOf outcome).status (responseOf outcome).body
  reflects : Reflects (past ++ [operation]) result.2

section

variable {past : List Operation} {store : Store} {request : Request}

theorem Reflects.lists (hreflects : Reflects past store) {choose : Book → Bool}
    {isChosen : Book → Prop} (hchoose : ∀ book, choose book = true ↔ isChosen book) :
    Lists past isChosen (store.books.filter choose) where
  rising := hreflects.rising.filter _
  mem_iff book := by rw [List.mem_filter, hreflects.mem_iff, hchoose]

theorem serves_listBooks (hreflects : Reflects past store) (request : Request) :
    Serves past (.listing (request.queryParameter? "author")
      ((request.queryParameter? "limit").bind (numberOf? .usize)))
      ((listBooks request).run.run.run store) := by
  have hlimit : ((request.queryParameter? "limit").bind (Integer.ofText? .usize)).map
      (fun limit => limit.value.toNat) =
      (request.queryParameter? "limit").bind (numberOf? .usize) := Option.map_bind
  have hrun : (listBooks request).run.run.run store =
      (some (.ok (.json .ok (.array ((store.list (request.queryParameter? "author")
        ((request.queryParameter? "limit").bind (numberOf? .usize))).map row)))), store) := by
    rw [listBooks, optionalParameter_text, optionalParameter_integer, ← hlimit, ← respond_books]
    rfl
  have hchosen : ∀ book : Book, (request.queryParameter? "author").all (book.author = ·) = true ↔
      ∀ name ∈ request.queryParameter? "author", book.author = name := by
    intro book
    cases request.queryParameter? "author" <;> simp
  rw [hrun]
  refine ⟨⟨_, rfl, rfl, _, hreflects.lists hchosen, ?_⟩, hreflects.keep rfl nofun⟩
  cases (request.queryParameter? "limit").bind (numberOf? .usize) <;> rfl

theorem exists_run_addBook_malformed (store : Store)
    (hbody : ∀ book, ¬ PostsBook (bodyBytes request) book) :
    ∃ reason, (addBook request).run.run.run store =
      (some (.error (.malformedBody NewBook.body.name reason)), store) := by
  cases hdecode : Json.decode NewBook.body.decoder (bodyBytes request) with
  | ok book => exact absurd (NewBook.decode_eq_ok_iff_postsBook.mp hdecode) (hbody book)
  | error reason =>
      refine ⟨reason, ?_⟩
      rw [addBook, receive, hdecode]
      rfl

theorem serves_addBook_malformed (hreflects : Reflects past store)
    (hbody : ∀ book, ¬ PostsBook (bodyBytes request) book) :
    Serves past .malformed ((addBook request).run.run.run store) := by
  obtain ⟨reason, hrun⟩ := exists_run_addBook_malformed store hbody
  rw [hrun]
  exact ⟨⟨_, rfl, rfl⟩, hreflects.keep rfl nofun⟩

theorem serves_addBook {new : NewBook} (hreflects : Reflects past store)
    (hbody : PostsBook (bodyBytes request) new) :
    Serves past (.creation new) ((addBook request).run.run.run store) := by
  have hrun : (addBook request).run.run.run store =
      (some (.ok (.json .created (row (store.add new).1))), (store.add new).2) := by
    rw [addBook, receive, NewBook.decode_eq_ok_iff_postsBook.mpr hbody, ← respondReply_json]
    rfl
  rw [hrun]
  refine ⟨⟨_, rfl, rfl, ?_⟩, hreflects.add new⟩
  rw [← hreflects.lastId_eq]
  rfl

theorem run_getBook {id : ℕ} (hid : bookNumber request = .ok id) :
    (getBook request).run.run.run store =
      match store.get? id with
      | some book => (some (respond (.ok book.json)), store)
      | none => (some (.error (noBook id)), store) := by
  rw [getBook, hid]
  change (match store.get? id with
    | some book => liftM (respond (.ok book.json))
    | none => throw (noBook id) : ExceptT DispatchFault Shelving Response).run.run.run store = _
  cases store.get? id <;> rfl

theorem serves_getBook {text : String} (hreflects : Reflects past store)
    (htext : sourceText? request .path "id" = some text) :
    Serves past (.showing (numberOf? .u64 text)) ((getBook request).run.run.run store) := by
  have hnumber := bookNumber_eq htext
  cases hid : numberOf? .u64 text with
  | none =>
      rw [hid] at hnumber
      rw [getBook, hnumber]
      exact ⟨⟨_, rfl, rfl⟩, hreflects.keep rfl nofun⟩
  | some id =>
      rw [hid] at hnumber
      rw [run_getBook hnumber]
      cases hfound : store.get? id with
      | none =>
          exact ⟨⟨_, rfl, Or.inr ⟨hreflects.get?_eq_none_iff.mp hfound, rfl⟩⟩,
            hreflects.keep rfl nofun⟩
      | some book =>
          obtain ⟨hlive, hbook⟩ := hreflects.get?_eq_some_iff.mp hfound
          dsimp only
          rw [respond_json]
          exact ⟨⟨_, rfl, Or.inl ⟨book, hlive, hbook, rfl, rfl⟩⟩, hreflects.keep rfl nofun⟩

theorem run_removeBook {id : ℕ} (hid : bookNumber request = .ok id) :
    (removeBook request).run.run.run store =
      (some (if (store.get? id).isSome then .ok respondEmpty else .error (noBook id)),
        (store.remove id).2) := by
  rw [removeBook, hid]
  change (if (store.get? id).isSome then pure respondEmpty else throw (noBook id) :
    ExceptT DispatchFault Shelving Response).run.run.run (store.remove id).2 = _
  cases (store.get? id).isSome <;> rfl

theorem serves_removeBook {text : String} (hreflects : Reflects past store)
    (htext : sourceText? request .path "id" = some text) :
    Serves past (.removal (numberOf? .u64 text)) ((removeBook request).run.run.run store) := by
  have hnumber := bookNumber_eq htext
  cases hid : numberOf? .u64 text with
  | none =>
      rw [hid] at hnumber
      rw [removeBook, hnumber]
      exact ⟨⟨_, rfl, rfl⟩, hreflects.keep rfl nofun⟩
  | some id =>
      rw [hid] at hnumber
      rw [run_removeBook hnumber]
      refine ⟨⟨_, rfl, ?_⟩, hreflects.remove id⟩
      cases hfound : store.get? id with
      | none => exact Or.inr ⟨hreflects.get?_eq_none_iff.mp hfound, rfl⟩
      | some book =>
          obtain ⟨hlive, hbook⟩ := hreflects.get?_eq_some_iff.mp hfound
          exact Or.inl ⟨book, hlive, hbook, rfl, rfl⟩

theorem serves_shelfBooks {name : String} {since : Option Date} (hreflects : Reflects past store)
    (hname : sourceText? request .path "shelf" = some name)
    (hsince : convertOptionalWith Date.compactConverter (request.pathParameter? "since") = since) :
    Serves past (.shelf name since) ((shelfBooks request).run.run.run store) := by
  have hrun : (shelfBooks request).run.run.run store =
      (some (.ok (.json .ok (.array ((store.onShelf name since).map row)))), store) := by
    rw [shelfBooks, parameter_text hname, hsince, ← respond_books]
    rfl
  rw [hrun]
  refine ⟨⟨_, rfl, rfl, _, hreflects.lists fun book => ?_, rfl⟩, hreflects.keep rfl nofun⟩
  cases since with
  | none => simp
  | some date => simp [Date.isUpTo_iff]

end

section

variable {α β : Type} {action : Shelving α} {next : α → Shelving β} {store after : Store}

theorem run_bind_of_some {value : α} (haction : action.run.run store = (some value, after)) :
    (action >>= next).run.run store = (next value).run.run after := by
  rw [OptionT.run_bind, Option.elimM, StateT.run_bind, haction]
  rfl

theorem run_bind_of_none (haction : action.run.run store = (none, after)) :
    (action >>= next).run.run store = (none, after) := by
  rw [OptionT.run_bind, Option.elimM, StateT.run_bind, haction]
  rfl

end

section

variable {request : Request} {store after : Store} {found : RouteMatch Shelving}

/-- A request that is routed to an endpoint that does not panic is answered. -/
theorem exists_run_dispatch_eq [PatternEngine] {outcome : Except DispatchFault Response}
    (hfound : router.find? request.method request.path = some found)
    (hrun : (found.endpoint (request.withPathParameters found.pathParameters)).run.run.run store =
      (some outcome, after)) :
    ∃ answer events, (router.dispatch request).run.run store = (some (answer, events), after) ∧
      IsStamped request.id.text (responseOf outcome) answer := by
  obtain ⟨events, hdispatch⟩ := Router.exists_dispatch_eq hfound
  refine ⟨_, events outcome, ?_, isStamped_stamp request.id (responseOf outcome)⟩
  rw [hdispatch, run_bind_of_some hrun]
  rfl

/-- A request that is routed to an endpoint that panics is not answered. -/
theorem run_dispatch_eq_none [PatternEngine]
    (hfound : router.find? request.method request.path = some found)
    (hrun : (found.endpoint (request.withPathParameters found.pathParameters)).run.run.run store =
      (none, after)) :
    (router.dispatch request).run.run store = (none, after) := by
  obtain ⟨events, hdispatch⟩ := Router.exists_dispatch_eq hfound
  rw [hdispatch, run_bind_of_none hrun]

/-- What an endpoint serves is what the router serves. -/
theorem dispatch_serves [PatternEngine] {past : List Operation} {operation : Operation}
    (hfound : router.find? request.method request.path = some found)
    (hserves : Serves past operation
      ((found.endpoint (request.withPathParameters found.pathParameters)).run.run.run store)) :
    ∃ answer events later,
      (router.dispatch request).run.run store = (some (answer, events), later) ∧
        Expected past operation answer.status answer.body ∧
        Reflects (past ++ [operation]) later := by
  obtain ⟨⟨outcome, houtcome, hexpected⟩, hreflects⟩ := hserves
  obtain ⟨answer, events, hdispatch, hstamped⟩ :=
    exists_run_dispatch_eq hfound (Prod.ext houtcome rfl)
  rw [← hstamped.status_eq, ← hstamped.body_eq] at hexpected
  exact ⟨answer, events, _, hdispatch, hexpected, hreflects⟩

end

/-- A request that asks an operation is answered as expected, and the store reflects the
operation, too. -/
theorem dispatch_expected [PatternEngine] (haccepts : AcceptsRoutes) {past : List Operation}
    {operation : Operation} {store : Store} {request : Request} (hreflects : Reflects past store)
    (hasks : Asks request operation) :
    ∃ answer events later,
      (router.dispatch request).run.run store = (some (answer, events), later) ∧
        Expected past operation answer.status answer.body ∧
        Reflects (past ++ [operation]) later := by
  cases hasks with
  | listing hmethod hpath =>
      exact dispatch_serves (hmethod ▸ find?_booksPath haccepts listBooks_mem hpath)
        (serves_listBooks hreflects _)
  | creation hmethod hpath hbody =>
      exact dispatch_serves (hmethod ▸ find?_booksPath haccepts addBook_mem hpath)
        (serves_addBook hreflects hbody)
  | malformed hmethod hpath hbody =>
      exact dispatch_serves (hmethod ▸ find?_booksPath haccepts addBook_mem hpath)
        (serves_addBook_malformed hreflects hbody)
  | showing hmethod hpath htext =>
      rw [htext.eq_decodePiece]
      exact dispatch_serves (hmethod ▸ find?_bookPath haccepts getBook_mem hpath)
        (serves_getBook hreflects rfl)
  | removal hmethod hpath htext =>
      rw [htext.eq_decodePiece]
      exact dispatch_serves (hmethod ▸ find?_bookPath haccepts removeBook_mem hpath)
        (serves_removeBook hreflects rfl)
  | shelf hmethod hpath hname =>
      rw [hname.eq_decodePiece]
      exact dispatch_serves (hmethod ▸ find?_shelfPath haccepts shelfBooks_mem hpath)
        (serves_shelfBooks hreflects rfl (by rfl))
  | shelfSince hmethod hpath hname htext =>
      rw [hname.eq_decodePiece, htext.eq_decodePiece]
      exact dispatch_serves (hmethod ▸ find?_shelfSincePath haccepts shelfBooks_mem hpath)
        (serves_shelfBooks hreflects rfl (by rfl))

/-! ### Whole runs -/

/-- Answers to operations, one for each, are what is expected after the operations before it. -/
structure AreExpected (past operations : List Operation) (answers : List Response) : Prop where
  length_eq : answers.length = operations.length
  expected : ∀ before operation later, operations = before ++ operation :: later →
    ∃ answer, answers[before.length]? = some answer ∧
      Expected (past ++ before) operation answer.status answer.body

theorem AreExpected.cons {past operations : List Operation} {operation : Operation}
    {answer : Response} {answers : List Response}
    (hfirst : Expected past operation answer.status answer.body)
    (hrest : AreExpected (past ++ [operation]) operations answers) :
    AreExpected past (operation :: operations) (answer :: answers) where
  length_eq := congrArg (· + 1) hrest.length_eq
  expected before next later hoperations := by
    cases before with
    | nil =>
        cases hoperations
        exact ⟨answer, rfl, by rwa [List.append_nil]⟩
    | cons first before =>
        cases hoperations
        obtain ⟨found, hfound, hexpected⟩ := hrest.expected before next later rfl
        rw [List.append_assoc] at hexpected
        exact ⟨found, hfound, hexpected⟩

/-- Along a run every request is answered as expected, and the store reflects all that was
asked. -/
theorem run_dispatch_expected [PatternEngine] (haccepts : AcceptsRoutes)
    {past operations : List Operation} {requests : List Request} {store : Store}
    (hreflects : Reflects past store) (hasks : List.Forall₂ Asks requests operations) :
    ∃ answers later, (requests.mapM router.dispatch).run.run store = (some answers, later) ∧
      AreExpected past operations (answers.map Prod.fst) ∧
      Reflects (past ++ operations) later := by
  -- What was asked before grows by the first operation, and the store reflects it by one step.
  induction hasks generalizing past store with
  | nil =>
      refine ⟨[], store, rfl, ⟨rfl, fun before operation later hoperations => ?_⟩,
        by rwa [List.append_nil]⟩
      exact absurd hoperations.symm (List.append_ne_nil_of_right_ne_nil before
        (List.cons_ne_nil _ _))
  | @cons request operation requests operations hfirst _ ih =>
      obtain ⟨answer, events, after, hdispatch, hanswer, hafter⟩ :=
        dispatch_expected haccepts hreflects hfirst
      obtain ⟨answers, later, hrun, hanswers, hlast⟩ := ih hafter
      rw [List.append_assoc] at hlast
      refine ⟨(answer, events) :: answers, later, ?_, hanswers.cons hanswer, hlast⟩
      rw [List.mapM_cons, run_bind_of_some hdispatch, run_bind_of_some hrun]
      rfl

/-- What is answered about a number that was removed: no book has it, and a book that is created
gets a higher one. -/
def IsGone (id : ℕ) : Operation → Status → Json → Prop
  | .showing (some other), status, _ => other = id → status = .notFound
  | .removal (some other), status, _ => other = id → status = .notFound
  | .creation new, _, body => ∃ number, id < number ∧ body = row (new.withId number)
  | _, _, _ => True

theorem Expected.isGone {past later : List Operation} {operation : Operation} {id : ℕ}
    {status : Status} {body : Json} (hgiven : id ≤ (created past).length)
    (hexpected : Expected (past ++ .removal (some id) :: later) operation status body) :
    IsGone id operation status body := by
  have hgone := not_live_of_removed hgiven later
  have hmissing : ∀ {isAnswered : Book → Prop},
      (∃ book, Live (past ++ .removal (some id) :: later) book ∧ book.id = id ∧ isAnswered book) ∨
        (∀ book, Live (past ++ .removal (some id) :: later) book → book.id ≠ id) ∧
          status = .notFound → status = .notFound := by
    rintro isAnswered (⟨book, hlive, hid, -⟩ | ⟨-, hstatus⟩)
    · exact absurd hid (hgone book hlive)
    · exact hstatus
  rcases operation with _ | new | _ | (_ | other) | (_ | other) | _
  · trivial
  · refine ⟨_, Nat.lt_succ_of_le ?_, hexpected.2⟩
    rw [created_append, List.length_append]
    exact Nat.le_trans hgiven (Nat.le_add_right _ _)
  · trivial
  · trivial
  · rintro rfl
    exact hmissing hexpected
  · trivial
  · rintro rfl
    exact hmissing hexpected
  · trivial

/-- The catalog behaves like a table of books.  A request is routed to it exactly when it asks an
operation, a malformed body leaves the store as it was, and along every run of a new service
each request is answered as the operations before it make expected.  A number that was removed
is never shown, removed or given again. -/
theorem answered_as_table [PatternEngine] (haccepts : AcceptsRoutes) :
    (∀ request, (∃ operation, Asks request operation) ↔
      ∃ found, router.find? request.method request.path = some found ∧
        isOfCatalog found.template = true) ∧
    (∀ request store, Asks request .malformed →
      ((router.dispatch request).run.run store).2 = store) ∧
    ∀ requests operations, List.Forall₂ Asks requests operations →
      ∃ answers store,
        (requests.mapM router.dispatch).run.run .empty = (some answers, store) ∧
        Reflects operations store ∧ AreExpected [] operations (answers.map Prod.fst) ∧
        ∀ before id between operation later,
          operations = (before ++ .removal (some id) :: between) ++ operation :: later →
          id ≤ (created before).length →
          ∃ answer, (answers.map Prod.fst)[(before ++ .removal (some id) :: between).length]? =
            some answer ∧ IsGone id operation answer.status answer.body := by
  refine ⟨exists_asks_iff haccepts, fun request store hasks => ?_,
    fun requests operations hasks => ?_⟩
  · cases hasks with
    | malformed hmethod hpath hbody =>
        obtain ⟨reason, hrun⟩ := exists_run_addBook_malformed store hbody
        obtain ⟨answer, events, hdispatch, -⟩ := exists_run_dispatch_eq
          (hmethod ▸ find?_booksPath haccepts addBook_mem hpath) hrun
        rw [hdispatch]
  · obtain ⟨answers, store, hrun, hexpected, hreflects⟩ :=
      run_dispatch_expected haccepts .empty hasks
    refine ⟨answers, store, hrun, hreflects, hexpected, ?_⟩
    intro before id between operation later hoperations hgiven
    obtain ⟨answer, hanswer, hmeets⟩ := hexpected.expected _ operation later hoperations
    exact ⟨answer, hanswer, hmeets.isGone hgiven⟩

def dune : NewBook := ⟨"Dune", "Herbert", "scifi", ⟨2021, 3, 4, by decide⟩⟩

/-- The new book as a body. -/
def duneText : String :=
  "\x7b\"title\":\"Dune\",\"author\":\"Herbert\",\"shelf\":\"scifi\",\"added\":\"2021-03-04\"\x7d"

/-- A book is added, removed and asked for, after a body that is no book. -/
def duneRequests : List Request :=
  [Request.ofTarget (.ofNat 1) adding "/catalog/books",
    (Request.ofTarget (.ofNat 2) adding "/catalog/books").withBody (Text.bytesOf duneText),
    Request.ofTarget (.ofNat 3) removing "/catalog/books/1",
    Request.ofTarget (.ofNat 4) reading "/catalog/books/1",
    Request.ofTarget (.ofNat 5) reading "/catalog/books?author=Herbert&limit=ten"]

section Unlimited

attribute [local instance] PatternEngine.unlimited

theorem answered_as_table_dune :
    ∃ answers store, (duneRequests.mapM router.dispatch).run.run .empty = (some answers, store) ∧
      Reflects [.malformed, .creation dune, .removal (some 1), .showing (some 1),
        .listing (some "Herbert") none] store ∧
      AreExpected [] [.malformed, .creation dune, .removal (some 1), .showing (some 1),
        .listing (some "Herbert") none] (answers.map Prod.fst) := by
  have hbooks : HasPieces "/catalog/books" booksPath := ⟨by decide, Or.inl rfl⟩
  have hbook : HasPieces "/catalog/books/1" (bookPath ['1']) := ⟨by decide, Or.inl rfl⟩
  have hone : StandsFor ['1'] "1" := Or.inl rfl
  have haccepts : AcceptsRoutes := fun _ _ => Nat.le_refl 0
  have hnull : ∀ book, ¬ PostsBook (Text.bytesOf "null") book := fun book hbook =>
    nomatch NewBook.decode_eq_ok_iff_postsBook.mpr hbook
  have hdune : PostsBook (Text.bytesOf duneText) dune :=
    NewBook.decode_eq_ok_iff_postsBook.mp rfl
  obtain ⟨answers, store, hrun, hreflects, hexpected, -⟩ :=
    (answered_as_table haccepts).2.2 duneRequests _
    (.cons (.malformed rfl hbooks hnull) (.cons (.creation rfl hbooks hdune)
      (.cons (.removal rfl hbook hone) (.cons (.showing rfl hbook hone)
        (.cons (.listing rfl hbooks) .nil)))))
  exact ⟨answers, store, hrun, hreflects, hexpected⟩

end Unlimited

end MarkedRoutes.Bookshelf
