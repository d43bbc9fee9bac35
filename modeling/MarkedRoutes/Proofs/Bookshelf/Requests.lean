import MarkedRoutes.Bookshelf.Service
import MarkedRoutes.Proofs.Bookshelf.History
import MarkedRoutes.Proofs.Bookshelf.NewBookTexts
import MarkedRoutes.Proofs.Serving.DisjointTemplates

/-!
# What requests ask of the catalog

The method of a request and the pieces of its path tell which of the five routes of the catalog
it is for.  No two routes of the bookshelf share a path, so the order of their registration does
not matter, and a request is routed to the catalog exactly when it asks an operation of it.
-/

namespace MarkedRoutes.Bookshelf

open MarkedRoutes.Http
open MarkedRoutes.Serving

/-! ### Requests to the catalog -/

def booksPath : List (List Char) := ["catalog".toList, "books".toList]

def bookPath (id : List Char) : List (List Char) := ["catalog".toList, "books".toList, id]

/-- The pieces of the path of the books on a shelf. -/
def shelfPath (shelf : List Char) : List (List Char) :=
  ["catalog".toList, "shelves".toList, shelf, "books".toList]

/-- The pieces of the path of the books on a shelf from a date on. -/
def shelfSincePath (shelf since : List Char) : List (List Char) :=
  ["catalog".toList, "shelves".toList, shelf, "books".toList, since]

def numberOf? (type : IntegerType) (text : String) : Option ℕ :=
  (Integer.ofText? type text).map fun number => number.value.toNat

/-- The operation that a request asks of the catalog. -/
inductive Asks (request : Request) : Operation → Prop
  | listing (hmethod : request.method = reading) (hpath : HasPieces request.path booksPath) :
      Asks request (.listing (request.queryParameter? "author")
        ((request.queryParameter? "limit").bind (numberOf? .usize)))
  | creation {book : NewBook} (hmethod : request.method = adding)
      (hpath : HasPieces request.path booksPath)
      (hbody : PostsBook (bodyBytes request) book) : Asks request (.creation book)
  | malformed (hmethod : request.method = adding) (hpath : HasPieces request.path booksPath)
      (hbody : ∀ book, ¬ PostsBook (bodyBytes request) book) :
      Asks request .malformed
  | showing {piece : List Char} {text : String} (hmethod : request.method = reading)
      (hpath : HasPieces request.path (bookPath piece)) (htext : StandsFor piece text) :
      Asks request (.showing (numberOf? .u64 text))
  | removal {piece : List Char} {text : String} (hmethod : request.method = removing)
      (hpath : HasPieces request.path (bookPath piece)) (htext : StandsFor piece text) :
      Asks request (.removal (numberOf? .u64 text))
  | shelf {piece : List Char} {name : String} (hmethod : request.method = reading)
      (hpath : HasPieces request.path (shelfPath piece)) (hname : StandsFor piece name) :
      Asks request (.shelf name none)
  | shelfSince {piece since : List Char} {name text : String} (hmethod : request.method = reading)
      (hpath : HasPieces request.path (shelfSincePath piece since))
      (hname : StandsFor piece name) (htext : StandsFor since text) :
      Asks request (.shelf name (Date.compactConverter.read text))

/-! ### Routes of the bookshelf -/

def calls : List (RouteCall Shelving) := routes.map fun route => ⟨route.1, route.2.1, route.2.2⟩

theorem registerAll_calls [PatternEngine] : registerAll calls = router := List.foldl_map

def AcceptsRoutes [PatternEngine] : Prop := ∀ call ∈ calls, AcceptsTemplate call.template

theorem isApart_calls : calls.Pairwise RouteCall.IsApart := by
  -- Endpoints are functions, so only the methods and the templates are compared.
  have hapart : (routes.map fun route => (route.1, route.2.1)).Pairwise fun first second =>
      first.1 = second.1 → sharePath first.2 second.2 = false := by decide +kernel
  rw [List.pairwise_map] at hapart
  rw [calls, List.pairwise_map]
  exact hapart

def booksTemplate : String := "/catalog/books"

def bookTemplate : String := "/catalog/books/\x7bid\x7d"

def shelfTemplate : String := "/catalog/shelves/\x7bshelf\x7d/books/\x7bsince?\x7d"

theorem parts_booksTemplate :
    templateParts booksTemplate = [.literal "catalog", .literal "books"] := by decide

theorem parts_bookTemplate :
    templateParts bookTemplate =
      [.literal "catalog", .literal "books", .placeholder "id" false] := by decide

theorem parts_shelfTemplate :
    templateParts shelfTemplate =
      [.literal "catalog", .literal "shelves", .placeholder "shelf" false, .literal "books",
        .placeholder "since" true] := by decide

def isOfCatalog (template : String) : Bool := "/catalog/".toList.isPrefixOf template.toList

def catalogRoutes : List (RequestMethod × String × Endpoint Shelving) :=
  [(reading, booksTemplate, listBooks), (adding, booksTemplate, addBook),
    (reading, bookTemplate, getBook), (removing, bookTemplate, removeBook),
    (reading, shelfTemplate, shelfBooks)]

theorem mem_catalogRoutes_iff {route : RequestMethod × String × Endpoint Shelving} :
    route ∈ catalogRoutes ↔ route ∈ routes ∧ isOfCatalog route.2.1 = true := by
  have hroutes : (routes.filter fun route => isOfCatalog route.2.1) = catalogRoutes := rfl
  rw [← hroutes, List.mem_filter]

theorem mem_routes_of_mem_catalogRoutes {route : RequestMethod × String × Endpoint Shelving}
    (hroute : route ∈ catalogRoutes) : route ∈ routes :=
  (mem_catalogRoutes_iff.mp hroute).1

theorem listBooks_mem : (reading, booksTemplate, listBooks) ∈ catalogRoutes := .head _

theorem addBook_mem : (adding, booksTemplate, addBook) ∈ catalogRoutes := .tail _ (.head _)

theorem getBook_mem : (reading, bookTemplate, getBook) ∈ catalogRoutes :=
  .tail _ (.tail _ (.head _))

theorem removeBook_mem : (removing, bookTemplate, removeBook) ∈ catalogRoutes :=
  .tail _ (.tail _ (.tail _ (.head _)))

theorem shelfBooks_mem : (reading, shelfTemplate, shelfBooks) ∈ catalogRoutes :=
  List.getLast_mem (List.cons_ne_nil _ _)

variable {method : RequestMethod} {path : String} {endpoint : Endpoint Shelving}

/-- The route that is found for the pieces that a template takes. -/
theorem find?_of_route [PatternEngine] (haccepts : AcceptsRoutes) {template : String}
    {parts : List Part} {selection : Selection}
    (hroute : (method, template, endpoint) ∈ routes)
    (hparts : templateParts template = parts) (hne : parts ≠ [])
    (hone : parts.countP isOptional ≤ 1)
    (hfits : List.Forall₂ Serving.Fits parts selection)
    (hpieces : HasPieces path selection.reduceOption) :
    router.find? method path = some ⟨template, pieceValues parts selection, endpoint⟩ := by
  subst hparts
  have hcall : (⟨method, template, endpoint⟩ : RouteCall Shelving) ∈ calls :=
    List.mem_map.mpr ⟨_, hroute, rfl⟩
  rw [← registerAll_calls]
  exact find?_of_pieces haccepts isApart_calls hcall hne hone hfits hpieces

theorem find?_booksPath [PatternEngine] (haccepts : AcceptsRoutes)
    (hroute : (method, booksTemplate, endpoint) ∈ catalogRoutes)
    (hpath : HasPieces path booksPath) :
    router.find? method path = some ⟨booksTemplate, [], endpoint⟩ :=
  @find?_of_route _ _ _ _ haccepts _ _ [some "catalog".toList, some "books".toList]
    (mem_routes_of_mem_catalogRoutes hroute) parts_booksTemplate (List.cons_ne_nil _ _)
    (Nat.zero_le _) (.cons rfl (.cons rfl .nil)) hpath

theorem find?_bookPath [PatternEngine] (haccepts : AcceptsRoutes) {piece : List Char}
    (hroute : (method, bookTemplate, endpoint) ∈ catalogRoutes)
    (hpath : HasPieces path (bookPath piece)) :
    router.find? method path = some ⟨bookTemplate, [("id", decodePiece piece)], endpoint⟩ :=
  @find?_of_route _ _ _ _ haccepts _ _ [some "catalog".toList, some "books".toList, some piece]
    (mem_routes_of_mem_catalogRoutes hroute) parts_bookTemplate (List.cons_ne_nil _ _)
    (Nat.zero_le _)
    (.cons rfl (.cons rfl (.cons (hpath.isPiece piece (by simp [bookPath])) .nil))) hpath

theorem find?_shelfPath [PatternEngine] (haccepts : AcceptsRoutes) {piece : List Char}
    (hroute : (method, shelfTemplate, endpoint) ∈ catalogRoutes)
    (hpath : HasPieces path (shelfPath piece)) :
    router.find? method path = some ⟨shelfTemplate, [("shelf", decodePiece piece)], endpoint⟩ :=
  @find?_of_route _ _ _ _ haccepts _ _
    [some "catalog".toList, some "shelves".toList, some piece, some "books".toList, none]
    (mem_routes_of_mem_catalogRoutes hroute) parts_shelfTemplate (List.cons_ne_nil _ _)
    (Nat.le_refl _)
    (.cons rfl (.cons rfl (.cons (hpath.isPiece piece (by simp [shelfPath]))
      (.cons rfl (.cons rfl .nil))))) hpath

theorem find?_shelfSincePath [PatternEngine] (haccepts : AcceptsRoutes) {piece since : List Char}
    (hroute : (method, shelfTemplate, endpoint) ∈ catalogRoutes)
    (hpath : HasPieces path (shelfSincePath piece since)) :
    router.find? method path =
      some ⟨shelfTemplate, [("shelf", decodePiece piece), ("since", decodePiece since)],
        endpoint⟩ :=
  @find?_of_route _ _ _ _ haccepts _ _
    [some "catalog".toList, some "shelves".toList, some piece, some "books".toList, some since]
    (mem_routes_of_mem_catalogRoutes hroute) parts_shelfTemplate (List.cons_ne_nil _ _)
    (Nat.le_refl _)
    (.cons rfl (.cons rfl (.cons (hpath.isPiece piece (by simp [shelfSincePath]))
      (.cons rfl (.cons (hpath.isPiece since (by simp [shelfSincePath])) .nil))))) hpath

/-! ### Every request to the catalog asks something -/

theorem hasPieces_booksPath {selection : Selection}
    (hmatches : Matches booksTemplate path selection) : HasPieces path booksPath := by
  obtain ⟨pieces, hpieces, parts, hparts, htakes⟩ := hmatches.exists_pieces
  rw [parts_booksTemplate] at hparts
  obtain rfl := List.mem_singleton.mp hparts
  simp only [List.forall₂_cons_left_iff, List.forall₂_nil_left_iff, Serving.Fits,
    Option.some.injEq] at htakes
  obtain ⟨_, _, rfl, ⟨_, _, rfl, rfl, rfl⟩, rfl⟩ := htakes
  exact hpieces

theorem exists_hasPieces_bookPath {selection : Selection}
    (hmatches : Matches bookTemplate path selection) :
    ∃ piece, HasPieces path (bookPath piece) := by
  obtain ⟨pieces, hpieces, parts, hparts, htakes⟩ := hmatches.exists_pieces
  rw [parts_bookTemplate] at hparts
  obtain rfl := List.mem_singleton.mp hparts
  simp only [List.forall₂_cons_left_iff, List.forall₂_nil_left_iff, Serving.Fits,
    Option.some.injEq] at htakes
  obtain ⟨_, _, rfl, ⟨_, _, rfl, ⟨piece, _, -, rfl, rfl⟩, rfl⟩, rfl⟩ := htakes
  exact ⟨piece, hpieces⟩

theorem exists_hasPieces_shelfPath {selection : Selection}
    (hmatches : Matches shelfTemplate path selection) :
    ∃ piece, HasPieces path (shelfPath piece) ∨
      ∃ since, HasPieces path (shelfSincePath piece since) := by
  obtain ⟨pieces, hpieces, parts, hparts, htakes⟩ := hmatches.exists_pieces
  rw [parts_shelfTemplate] at hparts
  rcases List.mem_cons.mp hparts with rfl | hparts
  · simp only [List.forall₂_cons_left_iff, List.forall₂_nil_left_iff, Serving.Fits,
      Option.some.injEq] at htakes
    obtain ⟨_, _, rfl, ⟨_, _, rfl, ⟨piece, _, -, ⟨_, _, rfl, ⟨since, _, -, rfl, rfl⟩, rfl⟩, rfl⟩,
      rfl⟩, rfl⟩ := htakes
    exact ⟨piece, Or.inr ⟨since, hpieces⟩⟩
  · obtain rfl := List.mem_singleton.mp hparts
    simp only [List.forall₂_cons_left_iff, List.forall₂_nil_left_iff, Serving.Fits,
      Option.some.injEq] at htakes
    obtain ⟨_, _, rfl, ⟨_, _, rfl, ⟨piece, _, -, ⟨_, _, rfl, rfl, rfl⟩, rfl⟩, rfl⟩, rfl⟩ := htakes
    exact ⟨piece, Or.inl hpieces⟩

/-- A request that asks an operation is routed to the catalog. -/
theorem Asks.exists_found [PatternEngine] (haccepts : AcceptsRoutes) {request : Request}
    {operation : Operation} (hasks : Asks request operation) :
    ∃ found, router.find? request.method request.path = some found ∧
      isOfCatalog found.template = true := by
  cases hasks with
  | listing hmethod hpath =>
      rw [hmethod, find?_booksPath haccepts listBooks_mem hpath]
      exact ⟨_, rfl, (mem_catalogRoutes_iff.mp listBooks_mem).2⟩
  | creation hmethod hpath hbody =>
      rw [hmethod, find?_booksPath haccepts addBook_mem hpath]
      exact ⟨_, rfl, (mem_catalogRoutes_iff.mp addBook_mem).2⟩
  | malformed hmethod hpath hbody =>
      rw [hmethod, find?_booksPath haccepts addBook_mem hpath]
      exact ⟨_, rfl, (mem_catalogRoutes_iff.mp addBook_mem).2⟩
  | showing hmethod hpath htext =>
      rw [hmethod, find?_bookPath haccepts getBook_mem hpath]
      exact ⟨_, rfl, (mem_catalogRoutes_iff.mp getBook_mem).2⟩
  | removal hmethod hpath htext =>
      rw [hmethod, find?_bookPath haccepts removeBook_mem hpath]
      exact ⟨_, rfl, (mem_catalogRoutes_iff.mp removeBook_mem).2⟩
  | shelf hmethod hpath hname =>
      rw [hmethod, find?_shelfPath haccepts shelfBooks_mem hpath]
      exact ⟨_, rfl, (mem_catalogRoutes_iff.mp shelfBooks_mem).2⟩
  | shelfSince hmethod hpath hname htext =>
      rw [hmethod, find?_shelfSincePath haccepts shelfBooks_mem hpath]
      exact ⟨_, rfl, (mem_catalogRoutes_iff.mp shelfBooks_mem).2⟩

/-- A request that is routed to the catalog asks an operation. -/
theorem exists_asks_of_find? [PatternEngine] (haccepts : AcceptsRoutes) {request : Request}
    {found : RouteMatch Shelving}
    (hfind : router.find? request.method request.path = some found)
    (hcatalog : isOfCatalog found.template = true) : ∃ operation, Asks request operation := by
  rw [← registerAll_calls] at hfind
  obtain ⟨call, hcall, hmethod, htemplate, selection, hmatches⟩ :=
    exists_call_of_find? haccepts hfind
  obtain ⟨⟨method, template, endpoint⟩, hroute, rfl⟩ := List.mem_map.mp hcall
  rw [htemplate] at hcatalog
  have hmem := mem_catalogRoutes_iff.mpr ⟨hroute, hcatalog⟩
  simp only [catalogRoutes, List.mem_cons, List.not_mem_nil, or_false, Prod.mk.injEq] at hmem
  rcases hmem with ⟨rfl, rfl, -⟩ | ⟨rfl, rfl, -⟩ | ⟨rfl, rfl, -⟩ | ⟨rfl, rfl, -⟩ | ⟨rfl, rfl, -⟩
  · exact ⟨_, .listing hmethod.symm (hasPieces_booksPath hmatches)⟩
  · have hpath := hasPieces_booksPath hmatches
    by_cases hbody : ∃ book, PostsBook (bodyBytes request) book
    · obtain ⟨book, hbook⟩ := hbody
      exact ⟨_, .creation hmethod.symm hpath hbook⟩
    · exact ⟨_, .malformed hmethod.symm hpath (not_exists.mp hbody)⟩
  · obtain ⟨piece, hpath⟩ := exists_hasPieces_bookPath hmatches
    exact ⟨_, .showing hmethod.symm hpath (standsFor_decodePiece piece)⟩
  · obtain ⟨piece, hpath⟩ := exists_hasPieces_bookPath hmatches
    exact ⟨_, .removal hmethod.symm hpath (standsFor_decodePiece piece)⟩
  · obtain ⟨piece, hpath | ⟨since, hpath⟩⟩ := exists_hasPieces_shelfPath hmatches
    · exact ⟨_, .shelf hmethod.symm hpath (standsFor_decodePiece piece)⟩
    · exact ⟨_, .shelfSince hmethod.symm hpath (standsFor_decodePiece piece)
        (standsFor_decodePiece since)⟩

/-- A request is routed to the catalog exactly when it asks an operation of it. -/
theorem exists_asks_iff [PatternEngine] (haccepts : AcceptsRoutes) (request : Request) :
    (∃ operation, Asks request operation) ↔
      ∃ found, router.find? request.method request.path = some found ∧
        isOfCatalog found.template = true := by
  constructor
  · rintro ⟨operation, hasks⟩
    exact hasks.exists_found haccepts
  · rintro ⟨found, hfind, hcatalog⟩
    exact exists_asks_of_find? haccepts hfind hcatalog

end MarkedRoutes.Bookshelf
