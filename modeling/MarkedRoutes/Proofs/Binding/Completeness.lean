import MarkedRoutes.Proofs.Binding.Soundness

/-!
# Completeness of binding

A signature fits a route when its parameters answer the placeholders one for one and
carry no markers that contradict each other.  Then no check of binding fires, however
many parameters there are and in whatever order they stand, and each parameter is
bound by a rule that looks at its own markers and at the names of the placeholders
only.
-/

namespace MarkedRoutes

open MarkedRoutes.Source

/-! ### What a parameter says of itself -/

namespace DeclaredParameter

/-- The marker that says where the value comes from. -/
def binding? (parameter : DeclaredParameter) : Option ParameterMarker :=
  parameter.markers.find? ParameterMarker.isBinding

def converter? (parameter : DeclaredParameter) : Option String :=
  parameter.markers.findSome? ParameterMarker.converter?

/-- The name under which the value is looked up: the marker's, else the parameter's own. -/
def boundName (parameter : DeclaredParameter) : String :=
  match parameter.binding? with
  | some (.path (some name)) => name
  | some (.query (some name)) => name
  | some (.header (some name)) => name
  | _ => parameter.name.getD ""

def isMarkedPath (parameter : DeclaredParameter) : Bool :=
  match parameter.binding? with
  | some (.path _) => true
  | _ => false

/-- Whether a placeholder may take the parameter: it is unmarked or marked `path`. -/
def fitsPath (parameter : DeclaredParameter) : Bool :=
  parameter.binding?.isNone || parameter.isMarkedPath

/-- Whether the placeholder of this name may take the parameter. -/
def answers (name : String) (parameter : DeclaredParameter) : Bool :=
  parameter.fitsPath && parameter.boundName = name

/-- Whether the parameter answers one of the placeholders of these names. -/
def isOnPath (names : List String) (parameter : DeclaredParameter) : Bool :=
  parameter.fitsPath && names.contains parameter.boundName

/-- The kind of a parameter that answers no placeholder. -/
def kindOffPath (parameter : DeclaredParameter) : BindingKind :=
  match parameter.binding? with
  | some (.query _) => .query
  | some (.header _) => .header
  | some .provided => .provided
  | some .pipeline => .pipeline
  | _ => .body

/-- The kind of a parameter on a path whose placeholders have these names. -/
def kindOn (names : List String) (parameter : DeclaredParameter) : BindingKind :=
  if parameter.isOnPath names then .path else parameter.kindOffPath

/-- The entry of a parameter that is bound in some way.  A value that arrives as text may be
missing exactly when the type says so; every other value is required. -/
def entry (parameter : DeclaredParameter) (kind : BindingKind) : BoundParameter where
  name := parameter.name.getD ""
  boundName := parameter.boundName
  type := parameter.valueType
  position := parameter.position
  kind
  isRequired := if kind.isText then !parameter.valueType.isOptional else true
  converter := parameter.converter?

/-- The entry of a parameter on a path whose placeholders have these names. -/
def entryOn (names : List String) (parameter : DeclaredParameter) : BoundParameter :=
  parameter.entry (parameter.kindOn names)

/-- The candidate that the parameter is when it is plain. -/
def candidate (parameter : DeclaredParameter) : Candidate :=
  ⟨parameter.name.getD "", parameter.binding?, parameter.converter?, parameter⟩

/-- A parameter that is an identifier with at most one binding marker and at most one
converter. -/
structure IsPlain (parameter : DeclaredParameter) : Prop where
  isNamed : parameter.name.isSome = true
  oneBinding : (parameter.markers.filter ParameterMarker.isBinding).length ≤ 1
  oneConverter : (parameter.markers.filterMap ParameterMarker.converter?).length ≤ 1

instance (parameter : DeclaredParameter) : Decidable parameter.IsPlain :=
  decidable_of_iff
    (parameter.name.isSome = true ∧
      (parameter.markers.filter ParameterMarker.isBinding).length ≤ 1 ∧
      (parameter.markers.filterMap ParameterMarker.converter?).length ≤ 1)
    ⟨fun ⟨hname, hbinding, hconverter⟩ => ⟨hname, hbinding, hconverter⟩,
      fun ⟨hname, hbinding, hconverter⟩ => ⟨hname, hbinding, hconverter⟩⟩

end DeclaredParameter

def placeholderNames (route : String) : List String :=
  (Template.ofText route).placeholders.map Prod.fst

/-- A signature that can be bound on a route, whatever the order of its parameters. -/
structure FitsRoute (route : String) (signature : HandlerSignature) : Prop where
  noReceiver : signature.hasReceiver = false
  noGenerics : signature.hasGenerics = false
  plain : ∀ parameter ∈ signature.parameters, parameter.IsPlain
  distinct : (placeholderNames route).Nodup
  answered : ∀ name ∈ placeholderNames route,
    signature.parameters.countP (DeclaredParameter.answers name) = 1
  declared : ∀ parameter ∈ signature.parameters, parameter.isMarkedPath = true →
    parameter.boundName ∈ placeholderNames route
  optional : ∀ parameter ∈ signature.parameters,
    ∀ placeholder ∈ (Template.ofText route).placeholders, parameter.answers placeholder.1 = true →
      (parameter.type.optionValue?.isSome = true ↔ placeholder.2 = true)
  converted : ∀ parameter ∈ signature.parameters, parameter.converter? ≠ none →
    (parameter.kindOn (placeholderNames route)).isText = true
  pipeline : signature.parameters.countP
    (fun parameter => parameter.binding? = some .pipeline) ≤ 1
  handle : ∀ parameter ∈ signature.parameters, parameter.binding? = some .pipeline →
    parameter.type.isContextHandle = true
  body : signature.parameters.countP
    (fun parameter => parameter.kindOn (placeholderNames route) = .body) ≤ 1

/-! ### Candidates -/

section Steps

variable {context : RouteContext} {parameter : DeclaredParameter}
  {parameters : List DeclaredParameter} {names : List String}

namespace DeclaredParameter

@[simp]
theorem boundName_candidate (parameter : DeclaredParameter) :
    parameter.candidate.boundName = parameter.boundName := rfl

@[simp]
theorem isMarkedPath_candidate (parameter : DeclaredParameter) :
    parameter.candidate.isMarkedPath = parameter.isMarkedPath := rfl

@[simp]
theorem fitsPath_candidate (parameter : DeclaredParameter) :
    parameter.candidate.fitsPath = parameter.fitsPath := by
  rw [fitsPath, isMarkedPath, Candidate.fitsPath, candidate]
  cases parameter.binding? with
  | none => rfl
  | some marker => cases marker <;> rfl

/-- A binding is a binding marker. -/
theorem isBinding_of_binding? {marker : ParameterMarker}
    (hbinding : parameter.binding? = some marker) : marker.isBinding = true :=
  List.find?_some hbinding

theorem isOnPath_of_answers {name : String} (hname : name ∈ names)
    (hanswers : parameter.answers name = true) : parameter.isOnPath names = true := by
  simp only [answers, Bool.and_eq_true, decide_eq_true_eq] at hanswers
  simp [isOnPath, hanswers, hname]

theorem isOnPath_cons (name : String) (names : List String) (parameter : DeclaredParameter) :
    parameter.isOnPath (name :: names) = (parameter.answers name || parameter.isOnPath names) := by
  simp [isOnPath, answers, Bool.and_or_distrib_left]

end DeclaredParameter

theorem Candidate.IsConsistent.eq_candidate {candidate : Candidate}
    (hconsistent : candidate.IsConsistent) : candidate = candidate.parameter.candidate := by
  have hbinding : candidate.parameter.binding? = candidate.binding := by
    rw [DeclaredParameter.binding?, ← List.head?_filter, hconsistent.bindings]
    cases candidate.binding <;> rfl
  have hconverter : candidate.parameter.converter? = candidate.converter := by
    rw [DeclaredParameter.converter?, ← List.head?_filterMap, hconsistent.converters]
    cases candidate.converter <;> rfl
  rw [DeclaredParameter.candidate, hbinding, hconverter, hconsistent.name]
  rfl

theorem Candidate.IsConsistent.isPlain {candidate : Candidate}
    (hconsistent : candidate.IsConsistent) : candidate.parameter.IsPlain where
  isNamed := by simp [hconsistent.name]
  oneBinding := by
    rw [hconsistent.bindings]
    cases candidate.binding <;> simp
  oneConverter := by
    rw [hconsistent.converters]
    cases candidate.converter <;> simp

/-- A plain parameter is a candidate. -/
theorem candidateOf_eq (hplain : parameter.IsPlain) :
    candidateOf context parameter = .ok parameter.candidate := by
  obtain ⟨name, hname⟩ := Option.isSome_iff_exists.mp hplain.isNamed
  rw [candidateOf, hname]
  dsimp only
  rw [if_neg (Nat.not_lt.mpr hplain.oneBinding), if_neg (Nat.not_lt.mpr hplain.oneConverter),
    List.head?_filter, List.head?_filterMap, DeclaredParameter.candidate, hname]
  rfl

theorem candidatesOf_eq (hplain : ∀ parameter ∈ parameters, parameter.IsPlain) :
    candidatesOf context parameters = .ok (parameters.map DeclaredParameter.candidate) := by
  induction parameters with
  | nil => rfl
  | cons parameter parameters ih =>
      obtain ⟨hfirst, hrest⟩ := List.forall_mem_cons.mp hplain
      rw [candidatesOf, candidateOf_eq hfirst, ih hrest]
      rfl

/-! ### Placeholders -/

/-- An item that passes a test that at most one item passes is all that the test leaves. -/
theorem filter_eq_singleton {α : Type} {test : α → Bool} {items : List α} {item : α}
    (hcount : items.countP test ≤ 1) (hmem : item ∈ items) (htest : test item = true) :
    items.filter test = [item] := by
  have hitem : item ∈ items.filter test := List.mem_filter.mpr ⟨hmem, htest⟩
  rw [List.countP_eq_length_filter] at hcount
  obtain ⟨found, hfound⟩ := List.length_eq_one_iff.mp
    (Nat.le_antisymm hcount (List.length_pos_of_mem hitem))
  rw [hfound, List.mem_singleton] at hitem
  rw [hfound, hitem]

theorem exists_filter_eq_singleton {α : Type} {test : α → Bool} {items : List α}
    (hcount : items.countP test = 1) :
    ∃ found ∈ items, test found = true ∧ items.filter test = [found] := by
  obtain ⟨found, hmem, htest⟩ := List.countP_pos_iff.mp (hcount ▸ Nat.one_pos)
  exact ⟨found, hmem, htest, filter_eq_singleton (Nat.le_of_eq hcount) hmem htest⟩

/-- The only item that passes a test is the first one, and the others are left. -/
theorem takeFirst?_of_filter_eq {α : Type} {test : α → Bool} {items : List α} {found : α}
    (hfilter : items.filter test = [found]) :
    takeFirst? test items = some (found, items.filter fun item => !test item) := by
  induction items with
  | nil => cases hfilter
  | cons first rest ih =>
      rw [takeFirst?]
      by_cases htest : test first = true
      · rw [List.filter_cons_of_pos htest] at hfilter
        obtain ⟨rfl, hnone⟩ := List.cons.inj hfilter
        have hrest : rest.filter (fun item => !test item) = rest := by
          apply List.filter_eq_self.mpr
          intro item hmem
          simpa using List.filter_eq_nil_iff.mp hnone item hmem
        rw [if_pos htest, List.filter_cons_of_neg (by simp [htest]), hrest]
      · rw [List.filter_cons_of_neg htest] at hfilter
        rw [if_neg htest, ih hfilter, List.filter_cons_of_pos (by simp [htest])]
        rfl

theorem checkNullability_eq {candidate : Candidate} {isRequired : Bool}
    (htype : candidate.parameter.valueType.isOptional = !isRequired) :
    checkNullability context candidate isRequired = .ok () := by
  rw [checkNullability, htype, if_neg]
  cases isRequired <;> decide

theorem rejectConverter_eq {candidate : Candidate} {kind : BindingKind}
    (hconverter : candidate.converter = none) :
    rejectConverter context candidate kind = .ok () := by
  rw [rejectConverter, hconverter]

/-- A parameter answers one name only. -/
theorem DeclaredParameter.answers_unique {name other : String}
    (hname : parameter.answers name = true) (hother : parameter.answers other = true) :
    name = other := by
  simp only [answers, Bool.and_eq_true, decide_eq_true_eq] at hname hother
  exact hname.2.symm.trans hother.2

theorem takeFirst?_of_answers {name : String} {found : DeclaredParameter}
    (hfound : parameters.filter (DeclaredParameter.answers name) = [found]) :
    takeFirst? (fun candidate : Candidate => candidate.fitsPath && candidate.boundName = name)
        (parameters.map DeclaredParameter.candidate) =
      some (found.candidate,
        (parameters.filter fun parameter => !parameter.answers name).map
          DeclaredParameter.candidate) := by
  have htest : (fun candidate : Candidate => candidate.fitsPath && candidate.boundName = name) ∘
      DeclaredParameter.candidate = DeclaredParameter.answers name := by
    funext parameter
    rw [Function.comp_apply, DeclaredParameter.fitsPath_candidate,
      DeclaredParameter.boundName_candidate, DeclaredParameter.answers]
  have hfilter : (parameters.map DeclaredParameter.candidate).filter
      (fun candidate => candidate.fitsPath && candidate.boundName = name) = [found.candidate] := by
    rw [List.filter_map, htest, hfound]
    rfl
  rw [takeFirst?_of_filter_eq hfilter, List.filter_map, ← htest]
  rfl

/-- Taking away the parameter of one name takes none away from the other names. -/
theorem countP_answers_of_ne {name other : String} (hne : other ≠ name) :
    (parameters.filter fun parameter => !parameter.answers name).countP
        (DeclaredParameter.answers other) =
      parameters.countP (DeclaredParameter.answers other) := by
  rw [List.countP_filter]
  apply List.countP_congr
  intro parameter _
  have hdisjoint : parameter.answers other = true → parameter.answers name = false := by
    intro hother
    by_contra hname
    rw [Bool.not_eq_false] at hname
    exact hne (DeclaredParameter.answers_unique hother hname)
  simpa using hdisjoint

/-- The parameters off the path are those that answer neither the first name nor the others. -/
theorem filter_not_isOnPath_cons (name : String) :
    (parameters.filter fun parameter => !parameter.answers name).filter
        (fun parameter => !parameter.isOnPath names) =
      parameters.filter fun parameter => !parameter.isOnPath (name :: names) := by
  rw [List.filter_filter]
  apply List.filter_congr
  intro parameter _
  rw [DeclaredParameter.isOnPath_cons, Bool.not_or, Bool.and_comm]

/-- The parameters on the path are the one that answers the first name and those that answer
the others. -/
theorem filter_isOnPath_cons {name : String} {found : DeclaredParameter} (names : List String)
    (hfound : parameters.filter (DeclaredParameter.answers name) = [found]) :
    (found :: (parameters.filter fun parameter => !parameter.answers name).filter
        (DeclaredParameter.isOnPath names)).Perm
      (parameters.filter (DeclaredParameter.isOnPath (name :: names))) := by
  have hanswers : found.answers name = true :=
    (List.mem_filter.mp (hfound.symm ▸ List.mem_singleton_self found)).2
  have hsplit : (found :: parameters.filter fun parameter => !parameter.answers name).Perm
      parameters := by
    have happend := List.filter_append_perm (DeclaredParameter.answers name) parameters
    rwa [hfound, List.singleton_append] at happend
  have hothers : (parameters.filter fun parameter => !parameter.answers name).filter
        (DeclaredParameter.isOnPath (name :: names)) =
      (parameters.filter fun parameter => !parameter.answers name).filter
        (DeclaredParameter.isOnPath names) := by
    apply List.filter_congr
    intro parameter hmem
    have hother := (List.mem_filter.mp hmem).2
    rw [Bool.not_eq_true'] at hother
    rw [DeclaredParameter.isOnPath_cons, hother, Bool.false_or]
  have hkept := hsplit.filter (DeclaredParameter.isOnPath (name :: names))
  rwa [List.filter_cons_of_pos (by rw [DeclaredParameter.isOnPath_cons, hanswers]; rfl),
    hothers] at hkept

/-- When each placeholder is answered once, every placeholder takes the parameter that answers
it, and the parameters that answer none are left. -/
theorem bindPlaceholders_eq (context : RouteContext) {placeholders : List (String × Bool)}
    (hdistinct : (placeholders.map Prod.fst).Nodup)
    (hanswered : ∀ name ∈ placeholders.map Prod.fst,
      parameters.countP (DeclaredParameter.answers name) = 1)
    (hoptional : ∀ parameter ∈ parameters, ∀ placeholder ∈ placeholders,
      parameter.answers placeholder.1 = true → parameter.valueType.isOptional = placeholder.2) :
    ∃ entries, bindPlaceholders context placeholders (parameters.map DeclaredParameter.candidate) =
        .ok (entries, (parameters.filter fun parameter =>
          !parameter.isOnPath (placeholders.map Prod.fst)).map DeclaredParameter.candidate) ∧
      entries.Perm ((parameters.filter (DeclaredParameter.isOnPath (placeholders.map Prod.fst))).map
        fun parameter => parameter.entry .path) := by
  induction placeholders generalizing parameters with
  | nil =>
      refine ⟨[], ?_, ?_⟩
      · rw [bindPlaceholders, List.filter_eq_self.mpr]
        simp [DeclaredParameter.isOnPath]
      · rw [List.filter_eq_nil_iff.mpr]
        · exact List.Perm.refl _
        · simp [DeclaredParameter.isOnPath]
  | cons placeholder placeholders ih =>
      obtain ⟨name, isOptional⟩ := placeholder
      obtain ⟨hnew, hdistinct⟩ := List.nodup_cons.mp hdistinct
      obtain ⟨hfirst, hothers⟩ := List.forall_mem_cons.mp hanswered
      obtain ⟨found, hparameter, hanswers, hfound⟩ := exists_filter_eq_singleton hfirst
      have hcount : ∀ other ∈ placeholders.map Prod.fst,
          (parameters.filter fun parameter => !parameter.answers name).countP
            (DeclaredParameter.answers other) = 1 := by
        intro other hother
        have hne : other ≠ name := fun heq => hnew (heq ▸ hother)
        rw [countP_answers_of_ne hne]
        exact hothers other hother
      obtain ⟨entries, hbind, hentries⟩ := ih hdistinct hcount
        fun parameter hmem placeholder hplaceholder => hoptional parameter
          (List.mem_of_mem_filter hmem) placeholder (List.mem_cons_of_mem _ hplaceholder)
      rw [filter_not_isOnPath_cons] at hbind
      have htype := hoptional found hparameter _ List.mem_cons_self hanswers
      have hcheck : checkNullability context found.candidate (!isOptional) = .ok () :=
        checkNullability_eq (htype.trans (Bool.not_not isOptional).symm)
      have hentry : found.candidate.bind .path (!isOptional) = found.entry .path := by
        rw [DeclaredParameter.entry, htype]
        rfl
      have htaken := (filter_isOnPath_cons (placeholders.map Prod.fst) hfound).map
        fun parameter => parameter.entry .path
      refine ⟨found.entry .path :: entries, ?_, (hentries.cons _).trans htaken⟩
      rw [bindPlaceholders, takeFirst?_of_answers hfound]
      dsimp only
      rw [hcheck, hbind, hentry]
      rfl

/-! ### The others -/

/-- The kinds that classification binds at once. -/
def BindingKind.isBoundAtOnce (kind : BindingKind) : Bool :=
  kind == .query || kind == .header || kind == .provided

def ofKindOffPath (kind : BindingKind) (parameters : List DeclaredParameter) :
    List DeclaredParameter :=
  parameters.filter fun parameter => parameter.kindOffPath == kind

theorem ofKindOffPath_cons (kind : BindingKind) (parameter : DeclaredParameter)
    (parameters : List DeclaredParameter) :
    ofKindOffPath kind (parameter :: parameters) =
      if parameter.kindOffPath = kind then parameter :: ofKindOffPath kind parameters
      else ofKindOffPath kind parameters := by
  simp [ofKindOffPath, List.filter_cons]

/-- Off the path, the parameters are sorted by their kinds. -/
theorem classify_eq (context : RouteContext)
    (hunmarked : ∀ parameter ∈ parameters, parameter.isMarkedPath = false)
    (hconverted : ∀ parameter ∈ parameters, parameter.converter? ≠ none →
      parameter.kindOffPath.isText = true) :
    classify context (parameters.map DeclaredParameter.candidate) = .ok
      { bound := (parameters.filter fun parameter => parameter.kindOffPath.isBoundAtOnce).map
          fun parameter => parameter.entry parameter.kindOffPath
        pipelines := (ofKindOffPath .pipeline parameters).map DeclaredParameter.candidate
        bodies := (ofKindOffPath .body parameters).map DeclaredParameter.candidate } := by
  induction parameters with
  | nil => rfl
  | cons parameter parameters ih =>
      obtain ⟨hpath, hpaths⟩ := List.forall_mem_cons.mp hunmarked
      obtain ⟨hconverter, hconverters⟩ := List.forall_mem_cons.mp hconverted
      have hrest := ih hpaths hconverters
      have hreject : ∀ kind, parameter.kindOffPath.isText = false →
          rejectConverter context parameter.candidate kind = .ok () := by
        intro kind htext
        apply rejectConverter_eq
        by_contra hsome
        rw [hconverter hsome] at htext
        cases htext
      have hcheck : checkNullability context parameter.candidate
          (!parameter.candidate.parameter.valueType.isOptional) = .ok () :=
        checkNullability_eq (Bool.not_not _).symm
      rw [List.map_cons, classify]
      cases hbinding : parameter.binding? with
      | none =>
          have hcandidate : parameter.candidate.binding = none := hbinding
          have hkind : parameter.kindOffPath = .body := by
            simp [DeclaredParameter.kindOffPath, hbinding]
          rw [hcandidate]
          dsimp only
          rw [hreject .body (by rw [hkind]; rfl), hrest]
          simp [hkind, ofKindOffPath_cons, BindingKind.isBoundAtOnce, bind, Except.bind]
      | some marker =>
          have hcandidate : parameter.candidate.binding = some marker := hbinding
          rw [hcandidate]
          cases marker with
          | path name => simp [DeclaredParameter.isMarkedPath, hbinding] at hpath
          | convert converter => cases DeclaredParameter.isBinding_of_binding? hbinding
          | query name | header name =>
              dsimp only
              rw [hcheck, hrest]
              simp [DeclaredParameter.kindOffPath, hbinding, ofKindOffPath_cons,
                BindingKind.isBoundAtOnce, bind, Except.bind]
              rfl
          | provided =>
              have hkind : parameter.kindOffPath = .provided := by
                simp [DeclaredParameter.kindOffPath, hbinding]
              dsimp only
              rw [hreject .provided (by rw [hkind]; rfl), hrest]
              simp [hkind, ofKindOffPath_cons, BindingKind.isBoundAtOnce, bind, Except.bind]
              rfl
          | pipeline | body =>
              have htext : parameter.kindOffPath.isText = false := by
                simp [DeclaredParameter.kindOffPath, hbinding, BindingKind.isText]
              dsimp only
              rw [hreject _ htext, hrest]
              simp [DeclaredParameter.kindOffPath, hbinding, ofKindOffPath_cons,
                BindingKind.isBoundAtOnce, bind, Except.bind]

theorem DeclaredParameter.kindOffPath_ne_path (parameter : DeclaredParameter) :
    parameter.kindOffPath ≠ .path := by
  rw [kindOffPath]
  split <;> decide

/-- The parameters off the path in the order in which they are bound: those bound at once, the
pipeline, the body. -/
def orderOffPath (parameters : List DeclaredParameter) : List DeclaredParameter :=
  (parameters.filter fun parameter => parameter.kindOffPath.isBoundAtOnce) ++
    (ofKindOffPath .pipeline parameters ++ ofKindOffPath .body parameters)

theorem orderOffPath_perm (parameters : List DeclaredParameter) :
    (orderOffPath parameters).Perm parameters := by
  induction parameters with
  | nil => exact List.Perm.refl _
  | cons parameter parameters ih =>
      have hne := parameter.kindOffPath_ne_path
      refine List.Perm.trans ?_ (ih.cons parameter)
      rw [orderOffPath, orderOffPath, ofKindOffPath, ofKindOffPath]
      cases hkind : parameter.kindOffPath with
      | path => exact absurd hkind hne
      | query | header | provided =>
          simp [hkind, BindingKind.isBoundAtOnce, ofKindOffPath]
      | pipeline =>
          have hlater : BindingKind.isBoundAtOnce .pipeline = false := rfl
          simp [hkind, hlater, ofKindOffPath]
      | body =>
          have hlater : BindingKind.isBoundAtOnce .body = false := rfl
          rw [List.filter_cons_of_neg (by simp [hkind, hlater]),
            List.filter_cons_of_neg (by simp [hkind]), List.filter_cons_of_pos (by simp [hkind]),
            ← List.append_assoc, ← List.append_assoc]
          exact List.perm_middle

theorem mapM_bindPipeline_eq
    (hhandle : ∀ parameter ∈ parameters, parameter.type.isContextHandle = true) :
    (parameters.map DeclaredParameter.candidate).mapM (bindPipeline context) =
      .ok (parameters.map fun parameter => parameter.entry .pipeline) := by
  induction parameters with
  | nil => rfl
  | cons parameter parameters ih =>
      obtain ⟨hfirst, hrest⟩ := List.forall_mem_cons.mp hhandle
      have hbind : bindPipeline context parameter.candidate = .ok (parameter.entry .pipeline) :=
        if_pos hfirst
      rw [List.map_cons, List.mapM_cons, hbind, ih hrest]
      rfl

theorem map_entry_ofKindOffPath (kind : BindingKind) (parameters : List DeclaredParameter) :
    (ofKindOffPath kind parameters).map (fun parameter => parameter.entry kind) =
      (ofKindOffPath kind parameters).map
        fun parameter => parameter.entry parameter.kindOffPath := by
  apply List.map_congr_left
  intro parameter hmem
  rw [eq_of_beq (List.mem_filter.mp hmem).2]

/-- What is left for classification is put together by its kinds. -/
theorem assemble_eq (context : RouteContext)
    (hpipeline : (ofKindOffPath .pipeline parameters).length ≤ 1)
    (hbody : (ofKindOffPath .body parameters).length ≤ 1)
    (hhandle : ∀ parameter ∈ ofKindOffPath .pipeline parameters,
      parameter.type.isContextHandle = true) (bound : List BoundParameter) :
    assemble context ⟨bound, (ofKindOffPath .pipeline parameters).map DeclaredParameter.candidate,
        (ofKindOffPath .body parameters).map DeclaredParameter.candidate⟩ =
      .ok (bound ++ (ofKindOffPath .pipeline parameters ++ ofKindOffPath .body parameters).map
        fun parameter => parameter.entry parameter.kindOffPath) := by
  rw [assemble]
  dsimp only
  rw [List.length_map, List.length_map, if_neg (Nat.not_lt.mpr hpipeline),
    if_neg (Nat.not_lt.mpr hbody), mapM_bindPipeline_eq hhandle, List.map_map, List.map_append,
    ← map_entry_ofKindOffPath, ← map_entry_ofKindOffPath, ← List.append_assoc]
  rfl

/-! ### Signatures -/

namespace DeclaredParameter

theorem kindOn_of_isOnPath (honPath : parameter.isOnPath names = true) :
    parameter.kindOn names = .path :=
  if_pos honPath

theorem kindOn_of_not_isOnPath (honPath : parameter.isOnPath names = false) :
    parameter.kindOn names = parameter.kindOffPath := by
  rw [kindOn, honPath, if_neg Bool.false_ne_true]

theorem kindOffPath_eq_pipeline_iff :
    parameter.kindOffPath = .pipeline ↔ parameter.binding? = some .pipeline := by
  rw [kindOffPath]
  split <;> simp_all

end DeclaredParameter

/-- The parameters that answer no placeholder. -/
def offPath (names : List String) (parameters : List DeclaredParameter) : List DeclaredParameter :=
  parameters.filter fun parameter => !parameter.isOnPath names

theorem mem_offPath : parameter ∈ offPath names parameters ↔
    parameter ∈ parameters ∧ parameter.isOnPath names = false := by
  simp [offPath]

/-- The entries on the path and off it are the entries of all parameters. -/
theorem entries_perm (names : List String) (parameters : List DeclaredParameter) :
    ((parameters.filter (DeclaredParameter.isOnPath names)).map
        (fun parameter => parameter.entry .path) ++
      (orderOffPath (offPath names parameters)).map
        fun parameter => parameter.entry parameter.kindOffPath).Perm
      (parameters.map (DeclaredParameter.entryOn names)) := by
  have honPath : (parameters.filter (DeclaredParameter.isOnPath names)).map
        (fun parameter => parameter.entry .path) =
      (parameters.filter (DeclaredParameter.isOnPath names)).map
        (DeclaredParameter.entryOn names) := by
    apply List.map_congr_left
    intro parameter hmem
    rw [DeclaredParameter.entryOn,
      DeclaredParameter.kindOn_of_isOnPath (List.mem_filter.mp hmem).2]
  have hoffPath : (offPath names parameters).map
        (fun parameter => parameter.entry parameter.kindOffPath) =
      (offPath names parameters).map (DeclaredParameter.entryOn names) := by
    apply List.map_congr_left
    intro parameter hmem
    rw [DeclaredParameter.entryOn,
      DeclaredParameter.kindOn_of_not_isOnPath (mem_offPath.mp hmem).2]
  have hsplit := (List.filter_append_perm (DeclaredParameter.isOnPath names) parameters).map
    (DeclaredParameter.entryOn names)
  rw [List.map_append] at hsplit
  rw [honPath]
  refine List.Perm.trans (List.Perm.append_left _ ?_) hsplit
  exact ((orderOffPath_perm _).map _).trans (List.Perm.of_eq hoffPath)

variable {signature : HandlerSignature}

namespace FitsRoute

/-- A parameter that is left over is marked neither `path` nor with a converter that does
nothing. -/
theorem isMarkedPath_eq_false {route : String} (hfits : FitsRoute route signature)
    (hmem : parameter ∈ offPath (placeholderNames route) signature.parameters) :
    parameter.isMarkedPath = false := by
  obtain ⟨hparameter, honPath⟩ := mem_offPath.mp hmem
  by_contra hmarked
  rw [Bool.not_eq_false] at hmarked
  have hdeclared := hfits.declared parameter hparameter hmarked
  have hfitsPath : parameter.fitsPath = true := by simp [DeclaredParameter.fitsPath, hmarked]
  simp [DeclaredParameter.isOnPath, hfitsPath, hdeclared] at honPath

theorem isText_of_converter? {route : String} (hfits : FitsRoute route signature)
    (hmem : parameter ∈ offPath (placeholderNames route) signature.parameters)
    (hconverter : parameter.converter? ≠ none) : parameter.kindOffPath.isText = true := by
  obtain ⟨hparameter, honPath⟩ := mem_offPath.mp hmem
  rw [← DeclaredParameter.kindOn_of_not_isOnPath honPath]
  exact hfits.converted parameter hparameter hconverter

theorem isOptional_eq {route : String} (hfits : FitsRoute route signature) :
    ∀ parameter ∈ signature.parameters, ∀ placeholder ∈ (Template.ofText route).placeholders,
      parameter.answers placeholder.1 = true →
        parameter.valueType.isOptional = placeholder.2 := by
  intro parameter hparameter placeholder hplaceholder hanswers
  rw [DeclaredParameter.valueType, ValueType.isOptional_ofType, Bool.eq_iff_iff]
  exact hfits.optional parameter hparameter placeholder hplaceholder hanswers

theorem length_pipeline {route : String} (hfits : FitsRoute route signature) :
    (ofKindOffPath .pipeline
      (offPath (placeholderNames route) signature.parameters)).length ≤ 1 := by
  refine Nat.le_trans ?_ hfits.pipeline
  rw [ofKindOffPath, ← List.countP_eq_length_filter, offPath, List.countP_filter]
  apply List.countP_mono_left
  intro parameter _ hkind
  simp only [Bool.and_eq_true, beq_iff_eq] at hkind
  simpa using DeclaredParameter.kindOffPath_eq_pipeline_iff.mp hkind.1

theorem length_body {route : String} (hfits : FitsRoute route signature) :
    (ofKindOffPath .body (offPath (placeholderNames route) signature.parameters)).length ≤ 1 := by
  refine Nat.le_trans ?_ hfits.body
  rw [ofKindOffPath, ← List.countP_eq_length_filter, offPath, List.countP_filter]
  apply List.countP_mono_left
  intro parameter _ hkind
  simp only [Bool.and_eq_true, beq_iff_eq, Bool.not_eq_true'] at hkind
  simpa [DeclaredParameter.kindOn_of_not_isOnPath hkind.2] using hkind.1

end FitsRoute

/-- A signature that fits the route is bound by the rule of each parameter. -/
theorem bindParameters_eq (hfits : FitsRoute context.route signature) :
    ∃ entries, bindParameters context signature = .ok (byPosition entries) ∧
      entries.Perm (signature.parameters.map
        (DeclaredParameter.entryOn (placeholderNames context.route))) := by
  obtain ⟨bound, hbind, hbound⟩ :=
    bindPlaceholders_eq context hfits.distinct hfits.answered hfits.isOptional_eq
  have hstray : ((offPath (placeholderNames context.route) signature.parameters).map
      DeclaredParameter.candidate).find? Candidate.isMarkedPath = none := by
    simp only [List.find?_eq_none, List.forall_mem_map]
    intro parameter hmem
    rw [DeclaredParameter.isMarkedPath_candidate, hfits.isMarkedPath_eq_false hmem]
    exact Bool.false_ne_true
  have hclassify := classify_eq context (fun _ hmem => hfits.isMarkedPath_eq_false hmem)
    (fun _ hmem => hfits.isText_of_converter? hmem)
  have hhandle : ∀ parameter ∈
      ofKindOffPath .pipeline (offPath (placeholderNames context.route) signature.parameters),
      parameter.type.isContextHandle = true := by
    intro parameter hmem
    obtain ⟨hparameter, hkind⟩ := List.mem_filter.mp hmem
    exact hfits.handle parameter (mem_offPath.mp hparameter).1
      (DeclaredParameter.kindOffPath_eq_pipeline_iff.mp (eq_of_beq hkind))
  have hassemble := assemble_eq context hfits.length_pipeline hfits.length_body hhandle
  refine ⟨_, ?_, (hbound.append_right _).trans (entries_perm _ _)⟩
  rw [bindParameters, hfits.noReceiver, hfits.noGenerics, candidatesOf_eq hfits.plain]
  have hrepeated : firstRepeated? []
      ((Template.ofText context.route).placeholders.map Prod.fst) = none :=
    firstRepeated?_eq_none_iff.mpr ⟨hfits.distinct, fun _ _ => List.not_mem_nil⟩
  simp only [Bool.false_eq_true, if_false, bind, Except.bind]
  rw [hrepeated]
  simp only [hbind]
  rw [← placeholderNames, ← offPath, hstray]
  simp only [hclassify, hassemble, orderOffPath, List.map_append]

/-- With increasing positions, the entries stand in the order of the parameters. -/
theorem bindParameters_inOrder (hfits : FitsRoute context.route signature)
    (hpositions : signature.parameters.Pairwise fun left right => left.position < right.position) :
    bindParameters context signature = .ok (signature.parameters.map
      (DeclaredParameter.entryOn (placeholderNames context.route))) := by
  obtain ⟨unsorted, hbind, hunsorted⟩ := bindParameters_eq hfits
  rw [hbind, byPosition_eq_of_perm hunsorted (List.pairwise_map.mpr hpositions)]

/-! ### Completeness -/

def BoundParameter.takes (name : String) (entry : BoundParameter) : Bool :=
  entry.kind = .path && entry.boundName = name

/-- What binding gives for a signature that fits its route: the entry of every parameter, one
entry for each placeholder, and the body for the parameter that nothing else takes. -/
structure FittedBinding (route : String) (signature : HandlerSignature)
    (entries : List BoundParameter) : Prop where
  each : entries.Perm
    (signature.parameters.map (DeclaredParameter.entryOn (placeholderNames route)))
  inOrder : signature.parameters.Pairwise (fun left right => left.position < right.position) →
    entries = signature.parameters.map (DeclaredParameter.entryOn (placeholderNames route))
  placeholder : ∀ placeholder ∈ (Template.ofText route).placeholders,
    ∃ parameter ∈ signature.parameters, parameter.answers placeholder.1 = true ∧
      (parameter.entry .path).isRequired = !placeholder.2 ∧
      entries.filter (BoundParameter.takes placeholder.1) = [parameter.entry .path]
  body : ∀ parameter ∈ signature.parameters, parameter.binding? = none →
    parameter.boundName ∉ placeholderNames route →
      entries.filter (fun entry => entry.kind = .body) = [parameter.entry .body]

namespace DeclaredParameter

theorem kindOn_eq_path_iff : parameter.kindOn names = .path ↔ parameter.isOnPath names = true := by
  cases honPath : parameter.isOnPath names with
  | true => simp [kindOn_of_isOnPath honPath]
  | false => simp [kindOn_of_not_isOnPath honPath, kindOffPath_ne_path]

theorem kindOn_eq_body (hbinding : parameter.binding? = none)
    (hname : parameter.boundName ∉ names) :
    parameter.kindOn names = .body := by
  have honPath : parameter.isOnPath names = false := by simp [isOnPath, hname]
  rw [kindOn_of_not_isOnPath honPath, kindOffPath, hbinding]

/-- The entry takes the placeholders that the parameter answers. -/
theorem takes_entryOn {name : String} (hname : name ∈ names) (parameter : DeclaredParameter) :
    (parameter.entryOn names).takes name = parameter.answers name := by
  have hkind : (parameter.entryOn names).kind = .path ↔ parameter.isOnPath names = true :=
    kindOn_eq_path_iff
  have hbound : (parameter.entryOn names).boundName = parameter.boundName := rfl
  rw [BoundParameter.takes, Bool.eq_iff_iff, Bool.and_eq_true, decide_eq_true_eq, decide_eq_true_eq,
    hkind, hbound]
  simp only [isOnPath, answers, Bool.and_eq_true, List.contains_iff_mem, decide_eq_true_eq]
  constructor
  · rintro ⟨⟨hfits, -⟩, rfl⟩
    exact ⟨hfits, rfl⟩
  · rintro ⟨hfits, rfl⟩
    exact ⟨⟨hfits, hname⟩, rfl⟩

end DeclaredParameter

/-- The only entry that passes a test comes from the only parameter whose entry does. -/
theorem filter_entries_eq {entries : List BoundParameter} {found : DeclaredParameter}
    {test : BoundParameter → Bool}
    (hentries : entries.Perm (parameters.map (DeclaredParameter.entryOn names)))
    (hfound : parameters.filter (fun parameter => test (parameter.entryOn names)) = [found]) :
    entries.filter test = [found.entryOn names] := by
  have hfilter := hentries.filter test
  rw [List.filter_map, Function.comp_def, hfound] at hfilter
  exact List.perm_singleton.mp hfilter

/-- Binding is complete: no check fires on a signature that fits its route. -/
theorem bindParameters_complete (hfits : FitsRoute context.route signature) :
    ∃ entries, bindParameters context signature = .ok entries ∧
      FittedBinding context.route signature entries := by
  obtain ⟨unsorted, hbind, hunsorted⟩ := bindParameters_eq hfits
  have heach := (List.mergeSort_perm unsorted
    fun left right => left.position ≤ right.position).trans hunsorted
  refine ⟨_, hbind, heach, ?_, ?_, ?_⟩
  · intro hpositions
    exact Except.ok.inj (hbind.symm.trans (bindParameters_inOrder hfits hpositions))
  · intro placeholder hplaceholder
    have hname : placeholder.1 ∈ placeholderNames context.route :=
      List.mem_map_of_mem hplaceholder
    obtain ⟨found, hparameter, hanswers, hfound⟩ :=
      exists_filter_eq_singleton (hfits.answered placeholder.1 hname)
    have honPath := DeclaredParameter.isOnPath_of_answers hname hanswers
    have hentry : found.entryOn (placeholderNames context.route) = found.entry .path := by
      rw [DeclaredParameter.entryOn, DeclaredParameter.kindOn_of_isOnPath honPath]
    have hrequired : (found.entry .path).isRequired = !placeholder.2 := by
      rw [← hfits.isOptional_eq found hparameter placeholder hplaceholder hanswers]
      rfl
    refine ⟨found, hparameter, hanswers, hrequired, ?_⟩
    rw [← hentry]
    apply filter_entries_eq heach
    simpa only [DeclaredParameter.takes_entryOn hname] using hfound
  · intro parameter hparameter hbinding hname
    have hkind := DeclaredParameter.kindOn_eq_body hbinding hname
    have hentry : parameter.entryOn (placeholderNames context.route) = parameter.entry .body := by
      rw [DeclaredParameter.entryOn, hkind]
    rw [← hentry]
    apply filter_entries_eq heach
    exact filter_eq_singleton hfits.body hparameter (decide_eq_true hkind)

end Steps

/-- The signature of `fn edit(note: Note, id: u32, #[header] etag: String)`. -/
def editSignature : Signature where
  name := "edit"
  line := 1
  parameters :=
    [⟨[], some "note", [], namedType "Note"⟩, ⟨[], some "id", [], namedType "u32"⟩,
      ⟨[⟨false, false, ["header"], .bare⟩], some "etag", [], namedType "String"⟩]
  output := none
  isAsync := false
  hasReceiver := false
  hasGenerics := false

section Standard

attribute [local instance] SourceParser.standard

theorem fitsRoute_edit : FitsRoute showContext.route (.ofSignature editSignature) where
  noReceiver := rfl
  noGenerics := rfl
  plain := by decide
  distinct := by decide
  answered := by decide
  declared := by decide
  optional := by decide
  converted := by decide
  pipeline := by decide
  handle := by decide
  body := by decide

theorem bindParameters_edit : ∃ entries,
    bindParameters showContext (.ofSignature editSignature) = .ok entries ∧
      FittedBinding showContext.route (.ofSignature editSignature) entries :=
  bindParameters_complete fitsRoute_edit

end Standard

end MarkedRoutes
