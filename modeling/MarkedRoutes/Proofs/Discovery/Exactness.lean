import MarkedRoutes.Discovery
import Mathlib.Data.List.Basic
import Mathlib.Data.List.Nodup

/-!
# Exactly the declared groups are discovered

When nothing is reported, the discovered groups are the group-marked modules that
discovery can see and the handlers are the marked functions directly inside
them, each once and in the order of their declarations.  `ShowsGroup` says what
a group shows of its declaration at a place among the groups around it.  Whether
or not something is reported, no two discovered groups have one module path.
-/

namespace MarkedRoutes

/-! ### Places -/

/-- A place inside groups: the module path of the source, and the names and own base paths
of the groups around the place, the outermost first. -/
structure Place where
  source : String
  names : List String
  bases : List String

namespace Place

def top (source : String) : Place := ⟨source, [], []⟩

/-- The place inside one more group. -/
def inside (place : Place) (name base : String) : Place :=
  ⟨place.source, place.names ++ [name], place.bases ++ [base]⟩

/-- The module path of the source followed by the names. -/
def modulePath (place : Place) : String := place.names.foldl childPath place.source

/-- The base paths one behind the other. -/
def base (place : Place) : String := String.join place.bases

theorem modulePath_inside (place : Place) (name base : String) :
    (place.inside name base).modulePath = childPath place.modulePath name := by
  rw [modulePath, inside, List.foldl_append]
  rfl

theorem base_inside (place : Place) (name base : String) :
    (place.inside name base).base = place.base ++ base := by
  rw [Place.base, inside, String.join_append]
  exact congrArg (place.base ++ ·) String.empty_append

end Place

/-! ### What is declared -/

/-- The declarations that carry a group marker, in order. -/
def groupsAmong (declarations : List Declaration) : List Declaration :=
  declarations.filter Declaration.isGroup

/-- The declarations that carry a method marker and no group marker, in order. -/
def handlersAmong (declarations : List Declaration) : List Declaration :=
  declarations.filter fun declaration => !declaration.isGroup && !declaration.methods.isEmpty

/-- A handler shows a declaration at a place: a function that can be seen, with its one
method marker. -/
structure ShowsHandler (place : Place) (declaration : Declaration)
    (handler : DiscoveredHandler) : Prop where
  isFunction : declaration.kind = .function
  isVisible : declaration.visibility ≠ .inherited
  signature_eq : declaration.signature = some handler.signature
  name_eq : handler.name = declaration.name
  location_eq : handler.location = declaration.location
  path_eq : handler.path = childPath place.modulePath declaration.name
  marked : ∃ own, declaration.methods = [(handler.method, own)] ∧
    handler.route = place.base ++ own
  isPlain : hasControl handler.route = false

mutual

/-- A group shows a declaration at a place: an inline module that can be seen, with the
handlers and groups among its children. -/
inductive ShowsGroup : Place → Declaration → DiscoveredGroup → Prop
  | intro {place : Place} {declaration : Declaration} {group : DiscoveredGroup} {own : String}
      (isModule : declaration.kind = .module)
      (isInline : declaration.hasBody = true)
      (isVisible : declaration.visibility ≠ .inherited)
      (marked : declaration.groupBase? = some own)
      (name_eq : group.name = declaration.name)
      (location_eq : group.location = declaration.location)
      (modulePath_eq : group.modulePath = (place.inside declaration.name own).modulePath)
      (base_eq : group.base = (place.inside declaration.name own).base)
      (isPlain : hasControl group.base = false)
      (handlers : List.Forall₂ (ShowsHandler (place.inside declaration.name own))
        (handlersAmong declaration.children) group.handlers)
      (groups : ShowsGroups (place.inside declaration.name own)
        (groupsAmong declaration.children) group.groups) :
      ShowsGroup place declaration group

/-- Groups show declarations at a place, one group for each declaration in order. -/
inductive ShowsGroups : Place → List Declaration → List DiscoveredGroup → Prop
  | nil {place : Place} : ShowsGroups place [] []
  | cons {place : Place} {declaration : Declaration} {group : DiscoveredGroup}
      {declarations : List Declaration} {groups : List DiscoveredGroup}
      (first : ShowsGroup place declaration group)
      (rest : ShowsGroups place declarations groups) :
      ShowsGroups place (declaration :: declarations) (group :: groups)

end

theorem hasControl_append {first second : String} (hfirst : hasControl first = false)
    (hsecond : ¬ hasControl second = true) : hasControl (first ++ second) = false := by
  rw [Bool.not_eq_true] at hsecond
  rw [hasControl] at hfirst hsecond ⊢
  rw [String.toList_append, List.any_append, hfirst, hsecond]
  rfl

/-! ### Surveys -/

namespace Survey

/-- What is invalid is reported. -/
theorem diagnostics_invalid_ne_nil (survey : Survey) (declaration : Declaration)
    (reason : InvalidReason) : (survey.invalid declaration reason).diagnostics ≠ [] :=
  List.append_ne_nil_of_right_ne_nil _ (List.cons_ne_nil _ _)

/-- What cannot be seen is reported. -/
theorem requireVisible_clean {survey : Survey} {declaration : Declaration} {what : Unreachable}
    (hclean : (survey.requireVisible declaration what).diagnostics = []) :
    declaration.visibility ≠ .inherited ∧ survey.diagnostics = [] := by
  rw [requireVisible] at hclean
  split_ifs at hclean with hvisibility
  · exact absurd hclean (List.append_ne_nil_of_right_ne_nil _ (List.cons_ne_nil _ _))
  · exact ⟨hvisibility, hclean⟩

@[simp]
theorem seen_invalid (survey : Survey) (declaration : Declaration) (reason : InvalidReason) :
    (survey.invalid declaration reason).seen = survey.seen := rfl

@[simp]
theorem seen_log (survey : Survey) (events : List Event) :
    (survey.log events).seen = survey.seen := rfl

@[simp]
theorem seen_requireVisible (survey : Survey) (declaration : Declaration) (what : Unreachable) :
    (survey.requireVisible declaration what).seen = survey.seen := by
  rw [requireVisible]
  split_ifs <;> rfl

end Survey

/-! ### Discovery without reports -/

/-- A handler is discovered when nothing is reported about it. -/
theorem showsHandler_of_discoverHandler {survey : Survey} {place : Place}
    {declaration : Declaration} (hplain : hasControl place.base = false)
    (hclean : (discoverHandler survey place.modulePath place.base declaration).2.diagnostics = []) :
    survey.diagnostics = [] ∧ ∃ handler,
      (discoverHandler survey place.modulePath place.base declaration).1 = some handler ∧
        ShowsHandler place declaration handler := by
  rw [discoverHandler] at hclean ⊢
  split at hclean
  next signature hkind hsignature =>
    split at hclean
    next method path hmethods =>
      dsimp only at hclean ⊢
      split_ifs at hclean ⊢ with hpath
      · exact absurd hclean (Survey.diagnostics_invalid_ne_nil _ _ _)
      · obtain ⟨hvisible, hsurvey⟩ := Survey.requireVisible_clean hclean
        refine ⟨hsurvey, _, rfl, ?_⟩
        exact
          { isFunction := hkind
            isVisible := hvisible
            signature_eq := hsignature
            name_eq := rfl
            location_eq := rfl
            path_eq := rfl
            marked := ⟨path, hmethods, rfl⟩
            isPlain := hasControl_append hplain hpath }
    next => exact absurd hclean (Survey.diagnostics_invalid_ne_nil _ _ _)
  next => exact absurd hclean (Survey.diagnostics_invalid_ne_nil _ _ _)

mutual

/-- A group is discovered when nothing is reported about it or inside it. -/
theorem showsGroup_of_discoverGroup {survey : Survey} {place : Place}
    (hplain : hasControl place.base = false) : ∀ declaration : Declaration,
    declaration.isGroup = true →
    (discoverGroup survey place.modulePath place.base declaration).2.diagnostics = [] →
    survey.diagnostics = [] ∧ ∃ group,
      (discoverGroup survey place.modulePath place.base declaration).1 = some group ∧
        ShowsGroup place declaration group
  | ⟨name, kind, visibility, markers, children, signature, hasBody, location⟩ => by
      intro hgroup hclean
      obtain ⟨own, hown⟩ := Option.isSome_iff_exists.mp hgroup
      rw [discoverGroup] at hclean ⊢
      dsimp only at hclean ⊢
      rw [hown, Option.getD_some] at hclean ⊢
      split_ifs at hclean ⊢ with hkind hbody hseen hcontrol
      · exact absurd hclean (Survey.diagnostics_invalid_ne_nil _ _ _)
      · exact absurd hclean (Survey.diagnostics_invalid_ne_nil _ _ _)
      · exact absurd hclean (Survey.diagnostics_invalid_ne_nil _ _ _)
      · exact absurd hclean (Survey.diagnostics_invalid_ne_nil _ _ _)
      · have hinside : hasControl (place.inside name own).base = false := by
          rw [Place.base_inside]
          exact hasControl_append hplain hcontrol
        rw [← Place.modulePath_inside place name own, ← Place.base_inside place name own]
          at hclean ⊢
        obtain ⟨hmembers, hhandlers, hgroups⟩ :=
          showsMembers_of_discoverMembers hinside children hclean
        obtain ⟨hvisible, hsurvey⟩ := Survey.requireVisible_clean hmembers
        refine ⟨hsurvey, _, rfl, ?_⟩
        exact .intro (not_not.mp hkind) (by simpa using hbody) hvisible hown rfl rfl rfl rfl hinside
          hhandlers hgroups

/-- Handlers and groups are discovered when nothing is reported about the children. -/
theorem showsMembers_of_discoverMembers {survey : Survey} {place : Place}
    (hplain : hasControl place.base = false) : ∀ children : List Declaration,
    (discoverMembers survey place.modulePath place.base children).2.diagnostics = [] →
    survey.diagnostics = [] ∧
      List.Forall₂ (ShowsHandler place) (handlersAmong children)
        (discoverMembers survey place.modulePath place.base children).1.handlers ∧
      ShowsGroups place (groupsAmong children)
        (discoverMembers survey place.modulePath place.base children).1.groups
  | [] => fun hclean => ⟨hclean, .nil, .nil⟩
  | child :: rest => by
      intro hclean
      rw [discoverMembers] at hclean ⊢
      split_ifs at hclean ⊢ with hgroup hmethods
      · obtain ⟨hafter, hhandlers, hgroups⟩ := showsMembers_of_discoverMembers hplain rest hclean
        obtain ⟨hsurvey, group, hfound, hshows⟩ :=
          showsGroup_of_discoverGroup hplain child hgroup hafter
        refine ⟨hsurvey, ?_, ?_⟩
        · rw [handlersAmong, List.filter_cons_of_neg (by simp [hgroup])]
          exact hhandlers
        · dsimp only
          rw [groupsAmong, List.filter_cons_of_pos hgroup, hfound]
          exact .cons hshows hgroups
      · obtain ⟨hsurvey, hhandlers, hgroups⟩ := showsMembers_of_discoverMembers hplain rest hclean
        refine ⟨hsurvey, ?_, ?_⟩
        · rw [handlersAmong, List.filter_cons_of_neg (by simp [hmethods])]
          exact hhandlers
        · rw [groupsAmong, List.filter_cons_of_neg hgroup]
          exact hgroups
      · obtain ⟨hafter, hhandlers, hgroups⟩ := showsMembers_of_discoverMembers hplain rest hclean
        obtain ⟨hsurvey, handler, hfound, hshows⟩ := showsHandler_of_discoverHandler hplain hafter
        refine ⟨hsurvey, ?_, ?_⟩
        · dsimp only
          rw [handlersAmong, List.filter_cons_of_pos (by simp [hgroup, hmethods]), hfound]
          exact .cons hshows hhandlers
        · rw [groupsAmong, List.filter_cons_of_neg hgroup]
          exact hgroups

end

theorem showsGroups_of_discoverItems {survey : Survey} {source : String}
    {items : List Declaration}
    (hclean : (discoverItems survey source items).2.diagnostics = []) :
    survey.diagnostics = [] ∧
      ShowsGroups (.top source) (groupsAmong items) (discoverItems survey source items).1 := by
  induction items generalizing survey with
  | nil => exact ⟨hclean, .nil⟩
  | cons item items ih =>
      rw [discoverItems] at hclean ⊢
      split_ifs at hclean ⊢ with hgroup
      · obtain ⟨hafter, hgroups⟩ := ih hclean
        have hplain : hasControl (Place.top source).base = false := rfl
        obtain ⟨hsurvey, group, hfound, hshows⟩ :=
          showsGroup_of_discoverGroup hplain item hgroup hafter
        refine ⟨hsurvey, ?_⟩
        rw [groupsAmong, List.filter_cons_of_pos hgroup]
        have hfirst : (discoverGroup survey source "" item).1 = some group := hfound
        dsimp only
        rw [hfirst]
        exact .cons hshows hgroups
      · obtain ⟨hsurvey, hgroups⟩ := ih hclean
        refine ⟨hsurvey, ?_⟩
        rw [groupsAmong, List.filter_cons_of_neg hgroup]
        exact hgroups

/-- The groups of each unit, in order, show the group-marked top-level items of the unit. -/
def ShowsUnits (units : List SourceUnit) (found : List (List DiscoveredGroup)) : Prop :=
  List.Forall₂
    (fun unit groups => ShowsGroups (.top unit.modulePath) (groupsAmong unit.items) groups)
    units found

theorem showsUnits_of_discoverUnits {survey : Survey} {units : List SourceUnit}
    (hclean : (discoverUnits survey units).2.diagnostics = []) :
    survey.diagnostics = [] ∧ ∃ found,
      (discoverUnits survey units).1 = found.flatten ∧ ShowsUnits units found := by
  induction units generalizing survey with
  | nil => exact ⟨hclean, [], rfl, .nil⟩
  | cons unit units ih =>
      rw [discoverUnits] at hclean ⊢
      obtain ⟨hafter, found, hfound, hshows⟩ := ih hclean
      obtain ⟨hsurvey, hgroups⟩ := showsGroups_of_discoverItems hafter
      refine ⟨hsurvey, _ :: found, ?_, .cons hgroups hshows⟩
      rw [List.flatten_cons, ← hfound]

/-! ### Module paths -/

mutual

/-- The module paths of a discovered group and of the groups inside it. -/
def DiscoveredGroup.modulePaths : DiscoveredGroup → List String
  | ⟨_, modulePath, _, _, groups, _⟩ => modulePath :: modulePathsOf groups

def modulePathsOf : List DiscoveredGroup → List String
  | [] => []
  | first :: rest => first.modulePaths ++ modulePathsOf rest

end

theorem modulePathsOf_append (first second : List DiscoveredGroup) :
    modulePathsOf (first ++ second) = modulePathsOf first ++ modulePathsOf second := by
  induction first with
  | nil => rfl
  | cons group groups ih =>
      rw [List.cons_append, modulePathsOf, ih, modulePathsOf, List.append_assoc]

/-- Some module paths are taken by a step of discovery: each once, none of them seen before
the step, and all of them seen behind it. -/
structure Takes (before after paths : List String) : Prop where
  keeps : before ⊆ after
  taken : paths ⊆ after
  fresh : ∀ path ∈ paths, path ∉ before
  nodup : paths.Nodup

namespace Takes

variable {before between after first second : List String}

theorem nothing (seen : List String) : Takes seen seen [] :=
  ⟨fun _ hmem => hmem, List.nil_subset seen, fun _ hmem => absurd hmem List.not_mem_nil,
    List.nodup_nil⟩

/-- One step after another. -/
theorem append (hfirst : Takes before between first) (hsecond : Takes between after second) :
    Takes before after (first ++ second) where
  keeps := fun _ hmem => hsecond.keeps (hfirst.keeps hmem)
  taken := List.append_subset.mpr ⟨fun _ hmem => hsecond.keeps (hfirst.taken hmem), hsecond.taken⟩
  fresh := by
    intro path hmem hseen
    rcases List.mem_append.mp hmem with hmem | hmem
    · exact hfirst.fresh path hmem hseen
    · exact hsecond.fresh path hmem (hfirst.keeps hseen)
  nodup := by
    refine List.nodup_append.mpr ⟨hfirst.nodup, hsecond.nodup, ?_⟩
    intro path hmem _ hother heq
    exact hsecond.fresh _ hother (heq ▸ hfirst.taken hmem)

/-- A new module path is taken. -/
theorem one {path : String} (hfresh : path ∉ before) : Takes before (path :: before) [path] :=
  ⟨List.subset_cons_self path before, List.cons_subset.mpr ⟨List.mem_cons_self, List.nil_subset _⟩,
    fun _ hmem => (List.mem_singleton.mp hmem) ▸ hfresh, List.nodup_singleton path⟩

end Takes

theorem seen_discoverHandler (survey : Survey) (modulePath base : String)
    (declaration : Declaration) :
    (discoverHandler survey modulePath base declaration).2.seen = survey.seen := by
  rw [discoverHandler]
  split
  · split
    · dsimp only
      split_ifs <;> simp
    · rfl
  · rfl

mutual

theorem takes_discoverGroup {survey : Survey} {parentModule parentBase : String} :
    ∀ declaration : Declaration,
    Takes survey.seen (discoverGroup survey parentModule parentBase declaration).2.seen
      (modulePathsOf (discoverGroup survey parentModule parentBase declaration).1.toList)
  | ⟨name, kind, visibility, markers, children, signature, hasBody, location⟩ => by
      rw [discoverGroup]
      dsimp only
      split_ifs with hkind hbody hseen hcontrol
      · exact .nothing _
      · exact .nothing _
      · exact .nothing _
      · have hone := Takes.one fun hmem => hseen (List.contains_iff_mem.mpr hmem)
        rw [Survey.seen_invalid, Survey.seen_requireVisible]
        exact ⟨hone.keeps, List.nil_subset _, fun _ hmem => absurd hmem List.not_mem_nil,
          List.nodup_nil⟩
      · have hone := Takes.one fun hmem => hseen (List.contains_iff_mem.mpr hmem)
        generalize hafter : Survey.requireVisible _ _ _ = after
        have hseen : after.seen = childPath parentModule name :: survey.seen := by
          rw [← hafter, Survey.seen_requireVisible]
        rw [← hseen] at hone
        rw [Option.toList_some, modulePathsOf, modulePathsOf, List.append_nil,
          DiscoveredGroup.modulePaths]
        exact hone.append (takes_discoverMembers children)

theorem takes_discoverMembers {survey : Survey} {modulePath base : String} :
    ∀ children : List Declaration,
    Takes survey.seen (discoverMembers survey modulePath base children).2.seen
      (modulePathsOf (discoverMembers survey modulePath base children).1.groups)
  | [] => .nothing _
  | child :: rest => by
      rw [discoverMembers]
      split_ifs
      · dsimp only
        rw [modulePathsOf_append]
        exact (takes_discoverGroup child).append (takes_discoverMembers rest)
      · rw [← Survey.seen_log survey (strayEvents modulePath child)]
        exact takes_discoverMembers rest
      · rw [← seen_discoverHandler survey modulePath base child]
        exact takes_discoverMembers rest

end

theorem takes_discoverItems {survey : Survey} {source : String} {items : List Declaration} :
    Takes survey.seen (discoverItems survey source items).2.seen
      (modulePathsOf (discoverItems survey source items).1) := by
  induction items generalizing survey with
  | nil => exact .nothing _
  | cons item items ih =>
      rw [discoverItems]
      split_ifs
      · dsimp only
        rw [modulePathsOf_append]
        exact (takes_discoverGroup item).append ih
      · rw [← Survey.seen_log survey (strayEvents source item)]
        exact ih

theorem takes_discoverUnits {survey : Survey} {units : List SourceUnit} :
    Takes survey.seen (discoverUnits survey units).2.seen
      (modulePathsOf (discoverUnits survey units).1) := by
  induction units generalizing survey with
  | nil => exact .nothing _
  | cons unit units ih =>
      rw [discoverUnits]
      dsimp only
      rw [modulePathsOf_append]
      exact takes_discoverItems.append ih

/-- Without reports exactly the declared groups and handlers are discovered, and with or
without reports no two groups at any depth have one module path. -/
theorem discover_exact (sources : SourceSet) :
    ((discover sources).2.diagnostics = [] →
      ∃ found, (discover sources).1 = found.flatten ∧ ShowsUnits sources.units found) ∧
    (modulePathsOf (discover sources).1).Nodup := by
  constructor
  · intro hclean
    exact (showsUnits_of_discoverUnits hclean).2
  · exact takes_discoverUnits.nodup

/-- A function without parameters that carries one method marker. -/
def markedFunction (name method path : String) (visibility : Source.Visibility) : Declaration :=
  ⟨name, .function, visibility, [.method method path], [],
    some ⟨[], none, false, false, false⟩, false, ⟨"src/routes.rs", 1⟩⟩

/-- A module that carries a group marker. -/
def markedModule (name base : String) (children : List Declaration) : Declaration :=
  ⟨name, .module, .everywhere, [.group base], children, none, true, ⟨"src/routes.rs", 1⟩⟩

/-- A group of books inside a group of shelves, with handlers before and behind it. -/
def shelvesSources : SourceSet :=
  ⟨[⟨"crate::routes", "src/routes.rs",
    [markedModule "shelves" "/shelves"
      [markedFunction "list" "GET" "" .everywhere,
        markedModule "books" "/\x7bid\x7d/books" [markedFunction "add" "POST" "" .restricted],
        markedFunction "show" "GET" "/\x7bid\x7d" .everywhere]]⟩], []⟩

theorem discover_exact_shelves :
    (discover shelvesSources).2.diagnostics = [] ∧
      (∃ found, (discover shelvesSources).1 = found.flatten ∧
        ShowsUnits shelvesSources.units found) ∧
      modulePathsOf (discover shelvesSources).1 =
        ["crate::routes::shelves", "crate::routes::shelves::books"] :=
  ⟨rfl, (discover_exact shelvesSources).1 rfl, rfl⟩

end MarkedRoutes
