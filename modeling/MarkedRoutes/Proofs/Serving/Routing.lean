import MarkedRoutes.Proofs.Serving.PatternRun
import MarkedRoutes.Proofs.Text.Utf8
import MarkedRoutes.Serving.Router

/-!
# Routing

A router answers by the earliest registered route of the request's method whose
template matches the path.  Whether a template matches, and which values the
placeholders get, is stated without patterns: by the parts of the template that
are kept and the pieces of the path that they take.
-/

namespace MarkedRoutes.Serving

open MarkedRoutes.Http
open MarkedRoutes.Text

/-! ### Matching one template -/

/-- A path matches a template by a selection when it spells the template's parts; a template
without parts matches the single slash only. -/
structure Matches (template path : String) (selection : Selection) : Prop where
  spells : Spells (templateParts template) path.toList selection
  root : templateParts template = [] → path = "/"

/-- The value that a piece of a path stands for: the text that its percent-decoded bytes
encode, or the piece itself when they encode none. -/
def StandsFor (piece : List Char) (value : String) : Prop :=
  bytesOf value = percentDecode (utf8 piece) ∨
    (∀ text, bytesOf text ≠ percentDecode (utf8 piece)) ∧ value = String.ofList piece

/-- The placeholders that a selection keeps, in order, with the pieces that they take. -/
def keptPlaceholders : List Part → Selection → List (String × List Char)
  | .placeholder name _ :: parts, some piece :: selection =>
      (name, piece) :: keptPlaceholders parts selection
  | _ :: parts, _ :: selection => keptPlaceholders parts selection
  | _, _ => []

theorem standsFor_decodePiece (piece : List Char) : StandsFor piece (decodePiece piece) := by
  rw [decodePiece]
  cases hdecoded : ofUtf8? (percentDecode (utf8 piece)) with
  | some text => exact Or.inl (ofUtf8?_eq_some_iff.mp hdecoded)
  | none =>
      refine Or.inr ⟨fun text htext => ?_, rfl⟩
      rw [ofUtf8?_eq_some_iff.mpr htext] at hdecoded
      cases hdecoded

/-- What a match reports: the placeholders that the preferred selection keeps, each with the
value that its piece stands for. -/
structure Reports (template path : String) (selection : Selection)
    (parameters : List (String × String)) : Prop where
  isMatch : Matches template path selection
  isPreferred : IsPreferred (templateParts template) path.toList selection
  parameters_eq : List.Forall₂
    (fun kept parameter => parameter.1 = kept.1 ∧ StandsFor kept.2 parameter.2)
    (keptPlaceholders (templateParts template) selection) parameters

/-- The text of a literal is the segment that it was read from. -/
theorem toList_of_ofText_eq_literal {segment : List Char} {text : String}
    (hpart : Part.ofText segment = .literal text) : text.toList = segment := by
  rw [Part.ofText] at hpart
  split at hpart
  · injection hpart with heq
    rw [← heq, String.toList_ofList]
  · split at hpart <;> cases hpart

theorem slashless_templateParts (template : String) : Slashless (templateParts template) := by
  intro text hmem
  obtain ⟨segment, hsegment, hpart⟩ := List.mem_map.mp hmem
  rw [toList_of_ofText_eq_literal hpart]
  exact notMem_of_mem_splitOnChar (List.mem_of_mem_filter hsegment)

/-! ### Named captures -/

theorem lookup_partCaptures (group number : ℕ) (part : Part) (kept : Option (List Char))
    (hne : number ≠ group) : (partCaptures group part kept).lookup number = none := by
  rcases part with text | ⟨name, optional⟩
  · rfl
  · cases kept with
    | none => rfl
    | some piece =>
        have hkey : (number == group) = false := beq_eq_false_iff_ne.mpr hne
        rw [partCaptures, List.lookup_cons, hkey]
        rfl

theorem lookup_selectionCaptures_of_lt {group number : ℕ} (hlt : number < group)
    (parts : List Part) (selection : Selection) :
    (selectionCaptures group parts selection).lookup number = none := by
  induction parts generalizing group selection with
  | nil => rfl
  | cons part parts ih =>
      cases selection with
      | nil => rfl
      | cons kept selection =>
          rw [selectionCaptures, List.lookup_append,
            ih (Nat.lt_of_lt_of_le hlt (Nat.le_add_right _ _)),
            lookup_partCaptures _ _ _ _ (Nat.ne_of_lt hlt)]
          rfl

/-- The names of the parts stand to the groups as the placeholders to the pieces. -/
theorem namedCaptures_eq {captures : Captures} {group : ℕ} {parts : List Part}
    {selection : Selection} (hfits : List.Forall₂ Fits parts selection)
    (hlookup : ∀ number, group ≤ number →
      captures.lookup number = (selectionCaptures group parts selection).lookup number) :
    PathMatcher.namedCaptures captures group (parts.filterMap placeholderName?) =
      keptPlaceholders parts selection := by
  induction hfits generalizing group with
  | nil => rfl
  | @cons part kept parts selection hpart _ ih =>
      cases part with
      | literal text =>
          have hrest := @ih group fun number hle => by
            rw [hlookup number hle, selectionCaptures]
            exact congrArg (List.lookup number) (List.append_nil _)
          cases kept <;> exact hrest
      | placeholder name optional =>
          have hothers := @ih (group + 1) fun number hle => by
            rw [hlookup number (by omega), selectionCaptures, List.lookup_append,
              lookup_partCaptures group number _ kept (by omega), Option.or_none]
            rfl
          have hown : captures.lookup group = kept := by
            rw [hlookup group (Nat.le_refl group), selectionCaptures, List.lookup_append,
              lookup_selectionCaptures_of_lt (show group < group + groupCount
                (.placeholder name optional) from Nat.lt_succ_self group), Option.none_or]
            cases kept with
            | none => rfl
            | some piece => simp [partCaptures]
          rw [List.filterMap_cons_some (by rfl), PathMatcher.namedCaptures, hown]
          cases kept with
          | none => exact hothers
          | some piece => exact congrArg ((name, piece) :: ·) hothers

/-! ### Matching a template -/

/-- A pattern that begins at the start of the text is tried nowhere else. -/
theorem search_textStart (rest : Pattern) (isStart : Bool) (text : List Char) :
    (Pattern.seq .textStart rest).search isStart text =
      if isStart then rest.capturesAt? true text else none := by
  induction text generalizing isStart with
  | nil => cases isStart <;> rfl
  | cons c text ih =>
      rw [Pattern.search, ih, if_neg Bool.false_ne_true, Option.or_none]
      cases isStart <;> rfl

theorem captures?_pathPattern {parts : List Part} (hslashless : Slashless parts)
    (hparts : parts ≠ []) (path : List Char) :
    (pathPattern parts).captures? path =
      (choose parts path).map (selectionCaptures 1 parts) := by
  have hclosing : closingItems parts = [.optional (.one (.only '/')), .textEnd] := by
    cases parts with
    | nil => exact absurd rfl hparts
    | cons part parts => rfl
  rw [pathPattern, hclosing]
  refine (search_textStart _ true path).trans ?_
  rw [if_pos rfl, Pattern.capturesAt?, run_partsItems hslashless]
  simp

theorem captures?_pathPattern_nil (path : List Char) :
    (pathPattern []).captures? path = if path = ['/'] then some [] else none := by
  refine (search_textStart _ true path).trans ?_
  rw [if_pos rfl]
  change (Pattern.one (.only '/')).run _ _ = _
  rw [run_slash]
  rcases path with _ | ⟨c, _ | ⟨d, rest⟩⟩
  · rfl
  · rw [dropFront?_singleton_cons]
    by_cases hslash : '/' = c
    · subst hslash
      rfl
    · have hne : ¬ ([c] = ['/']) := fun heq => hslash (List.cons.inj heq).1.symm
      simp [hslash, hne]
  · rw [dropFront?_singleton_cons]
    by_cases hslash : '/' = c
    · subst hslash
      simp [Pattern.sequence, Pattern.run]
    · simp [hslash]

theorem toList_eq_slash_iff {path : String} : path.toList = ['/'] ↔ path = "/" :=
  @String.toList_inj path "/"

/-- The values reported for the kept placeholders are what their pieces stand for. -/
theorem forall₂_standsFor (kept : List (String × List Char)) :
    List.Forall₂ (fun (named : String × List Char) (parameter : String × String) =>
      parameter.1 = named.1 ∧ StandsFor named.2 parameter.2) kept
      (kept.map fun named => (named.1, decodePiece named.2)) := by
  rw [List.forall₂_map_right_iff, List.forall₂_same]
  intro named _
  exact ⟨rfl, standsFor_decodePiece named.2⟩

/-- The matcher of a template with parts reports what is chosen. -/
theorem match?_templateMatcher_eq {template : String} (hparts : templateParts template ≠ [])
    (path : String) :
    (templateMatcher template).match? path =
      (choose (templateParts template) path.toList).map fun selection =>
        (keptPlaceholders (templateParts template) selection).map fun named =>
          (named.1, decodePiece named.2) := by
  rw [PathMatcher.match?, templateMatcher,
    captures?_pathPattern (slashless_templateParts template) hparts, Option.map_map]
  apply Option.map_congr
  intro selection hchoose
  rw [Function.comp_apply, namedCaptures_eq (spells_of_choose hchoose).fits fun _ _ => rfl]

/-- The matcher of a template reports what the preferred selection keeps, or no selection
matches. -/
theorem match?_templateMatcher (template path : String) :
    (∃ selection parameters, (templateMatcher template).match? path = some parameters ∧
      Reports template path selection parameters) ∨
    ((templateMatcher template).match? path = none ∧
      ∀ selection, ¬ Matches template path selection) := by
  have hslashless := slashless_templateParts template
  by_cases hparts : templateParts template = []
  · have hmatch : (templateMatcher template).match? path =
        if path.toList = ['/'] then some [] else none := by
      rw [PathMatcher.match?, templateMatcher, hparts, captures?_pathPattern_nil]
      split <;> rfl
    by_cases hpath : path.toList = ['/']
    · refine Or.inl ⟨[], [], by rw [hmatch, if_pos hpath], ?_⟩
      have hspells : Spells (templateParts template) path.toList [] := by
        rw [hparts]
        exact ⟨List.Forall₂.nil, Or.inr hpath⟩
      refine ⟨⟨hspells, fun _ => toList_eq_slash_iff.mp hpath⟩, ⟨hspells, ?_⟩, ?_⟩
      · rintro other ⟨hfits, -⟩
        rw [hparts, List.forall₂_nil_left_iff] at hfits
        rw [hfits]
        exact fun _ _ hkept => hkept
      · rw [hparts]
        exact List.Forall₂.nil
    · refine Or.inr ⟨by rw [hmatch, if_neg hpath], fun selection hmatches => ?_⟩
      exact hpath (toList_eq_slash_iff.mpr (hmatches.root hparts))
  · have hmatch := match?_templateMatcher_eq hparts path
    cases hchoose : choose (templateParts template) path.toList with
    | some selection =>
        refine Or.inl ⟨selection, _, by rw [hmatch, hchoose]; rfl, ?_⟩
        exact ⟨⟨spells_of_choose hchoose, fun hroot => absurd hroot hparts⟩,
          isPreferred_of_choose hslashless hchoose, forall₂_standsFor _⟩
    | none =>
        refine Or.inr ⟨by rw [hmatch, hchoose]; rfl, fun selection hmatches => ?_⟩
        exact (choose_eq_none_iff hslashless).mp hchoose selection hmatches.spells

/-! ### Registering and routing -/

section Registering

variable [PatternEngine] {m : Type → Type}

/-- One call that registers a route. -/
structure RouteCall (m : Type → Type) where
  method : RequestMethod
  template : String
  endpoint : Endpoint m

def RouteEntry.call (entry : RouteEntry m) : RouteCall m :=
  ⟨entry.method, entry.template, entry.endpoint⟩

/-- The router after calls in order. -/
def registerAll (calls : List (RouteCall m)) : Router m :=
  calls.foldl (fun router call => (router.register call.method call.template call.endpoint).1)
    .empty

def RouteCall.entry (call : RouteCall m) : RouteEntry m :=
  ⟨call.method, call.template, templateMatcher call.template, call.endpoint⟩

/-- The calls whose templates the engine accepts. -/
def acceptedCalls (calls : List (RouteCall m)) : List (RouteCall m) :=
  calls.filter fun call => AcceptsTemplate call.template

theorem acceptedCalls_eq_self {calls : List (RouteCall m)}
    (haccepts : ∀ call ∈ calls, AcceptsTemplate call.template) : acceptedCalls calls = calls :=
  List.filter_eq_self.mpr fun call hcall => decide_eq_true (haccepts call hcall)

theorem entries_register (router : Router m) (call : RouteCall m) :
    (router.register call.method call.template call.endpoint).1.entries =
      router.entries ++ (acceptedCalls [call]).map RouteCall.entry := by
  rw [Router.register, ofTemplate?_eq, acceptedCalls]
  by_cases haccepts : AcceptsTemplate call.template
  · rw [if_pos haccepts, List.filter_cons_of_pos (by simpa using haccepts)]
    rfl
  · rw [if_neg haccepts, List.filter_cons_of_neg (by simpa using haccepts)]
    exact (List.append_nil _).symm

theorem entries_registerAll (calls : List (RouteCall m)) :
    (registerAll calls).entries = (acceptedCalls calls).map RouteCall.entry := by
  have hfold : ∀ router : Router m,
      (calls.foldl (fun router call =>
        (router.register call.method call.template call.endpoint).1) router).entries =
        router.entries ++ (acceptedCalls calls).map RouteCall.entry := by
    induction calls with
    | nil => intro router; simp [acceptedCalls]
    | cons call calls ih =>
        intro router
        rw [List.foldl_cons, ih, entries_register, List.append_assoc, ← List.map_append,
          acceptedCalls, acceptedCalls, acceptedCalls, ← List.filter_append, List.singleton_append]
  exact hfold .empty

omit [PatternEngine] in
theorem asMatch?_entry_eq_some {call : RouteCall m} {method : RequestMethod} {path : String}
    {found : RouteMatch m} (hfound : Router.asMatch? method path call.entry = some found) :
    call.method = method ∧ found.template = call.template ∧ found.endpoint = call.endpoint ∧
      ∃ selection, Reports call.template path selection found.pathParameters := by
  rw [Router.asMatch?, Option.ite_none_right_eq_some] at hfound
  obtain ⟨hmethod, hfound⟩ := hfound
  obtain ⟨parameters, hparameters, rfl⟩ := Option.map_eq_some_iff.mp hfound
  rcases match?_templateMatcher call.template path with
    ⟨selection, reported, hreported, hreports⟩ | ⟨hnone, -⟩
  · obtain rfl := Option.some.inj (hreported.symm.trans hparameters)
    exact ⟨hmethod, rfl, rfl, selection, hreports⟩
  · exact absurd (hnone.symm.trans hparameters) (by simp)

omit [PatternEngine] in
theorem not_matches_of_asMatch?_entry {call : RouteCall m} {method : RequestMethod}
    {path : String} (hnone : Router.asMatch? method path call.entry = none)
    (hmethod : call.method = method) (selection : Selection) :
    ¬ Matches call.template path selection := by
  have hentry : call.entry.method = method := hmethod
  rw [Router.asMatch?, if_pos hentry, Option.map_eq_none_iff] at hnone
  rcases match?_templateMatcher call.template path with
    ⟨_, _, hsome, -⟩ | ⟨-, hmatches⟩
  · exact absurd (hnone.symm.trans hsome) (by simp)
  · exact hmatches selection

/-- A request is routed to the earliest accepted call of its method whose template matches the
path, and to nothing when no accepted template of its method matches. -/
theorem route_acceptedCalls (calls : List (RouteCall m)) (method : RequestMethod)
    (path : String) :
    match ((registerAll calls).route method path).1 with
    | some found =>
        ∃ earlier call later selection, acceptedCalls calls = earlier ++ call :: later ∧
          call.method = method ∧ found.template = call.template ∧
          found.endpoint = call.endpoint ∧
          Reports call.template path selection found.pathParameters ∧
          ∀ other ∈ earlier, other.method = method →
            ∀ selection, ¬ Matches other.template path selection
    | none =>
        ∀ call ∈ acceptedCalls calls, call.method = method →
          ∀ selection, ¬ Matches call.template path selection := by
  have hfind : (registerAll calls).find? method path =
      (acceptedCalls calls).findSome? (Router.asMatch? method path ∘ RouteCall.entry) := by
    rw [Router.find?, entries_registerAll, List.findSome?_map]
  rw [Router.route, hfind]
  cases hfound :
      (acceptedCalls calls).findSome? (Router.asMatch? method path ∘ RouteCall.entry) with
  | some found =>
      obtain ⟨earlier, call, later, hcalls, hmatch, hearlier⟩ :=
        List.findSome?_eq_some_iff.mp hfound
      obtain ⟨hmethod, htemplate, hendpoint, selection, hreports⟩ := asMatch?_entry_eq_some hmatch
      refine ⟨earlier, call, later, selection, hcalls, hmethod, htemplate, hendpoint, hreports, ?_⟩
      intro other hother hothermethod
      exact not_matches_of_asMatch?_entry (hearlier other hother) hothermethod
  | none =>
      intro call hcall hmethod
      exact not_matches_of_asMatch?_entry (List.findSome?_eq_none_iff.mp hfound call hcall) hmethod

/-- Every template is accepted whose pattern the engine does not hold too large.  When that is
so for all, a request is routed to the earliest call of its method whose template matches the
path, with the values of the preferred selection, and to nothing when no template of its method
matches. -/
theorem route_registerAll {calls : List (RouteCall m)}
    (haccepts : ∀ call ∈ calls, AcceptsTemplate call.template) (method : RequestMethod)
    (path : String) :
    (registerAll calls).entries.map RouteEntry.call = calls ∧
    match ((registerAll calls).route method path).1 with
    | some found =>
        ∃ earlier call later selection, calls = earlier ++ call :: later ∧
          call.method = method ∧ found.template = call.template ∧
          found.endpoint = call.endpoint ∧
          Reports call.template path selection found.pathParameters ∧
          ∀ other ∈ earlier, other.method = method →
            ∀ selection, ¬ Matches other.template path selection
    | none =>
        ∀ call ∈ calls, call.method = method →
          ∀ selection, ¬ Matches call.template path selection := by
  have hroute := route_acceptedCalls calls method path
  rw [acceptedCalls_eq_self haccepts] at hroute
  refine ⟨?_, hroute⟩
  rw [entries_registerAll, acceptedCalls_eq_self haccepts, List.map_map]
  exact List.map_id calls

end Registering

section Unlimited

attribute [local instance] PatternEngine.unlimited

theorem isToken_get : isToken "GET" = true := rfl

def getMethod : RequestMethod := ⟨"GET", isToken_get⟩

/-- Two routes, of which the second goes on from the first. -/
def shelfCalls : List (RouteCall Id) :=
  ["/shelves", "/shelves/{name?}/books"].map fun template =>
    ⟨getMethod, template, fun _ => pure (.empty .ok)⟩

theorem route_shelfCalls :
    (∀ call ∈ shelfCalls, AcceptsTemplate call.template) ∧
      (registerAll shelfCalls).entries.map RouteEntry.call = shelfCalls :=
  have haccepts : ∀ call ∈ shelfCalls, AcceptsTemplate call.template := fun _ _ => Nat.le_refl 0
  ⟨haccepts, (route_registerAll haccepts getMethod "/shelves/a%20b/books").1⟩

end Unlimited

end MarkedRoutes.Serving
