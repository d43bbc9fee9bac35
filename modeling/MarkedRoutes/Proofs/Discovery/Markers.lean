import MarkedRoutes.Proofs.Discovery.Declared

/-!
# Markers are answered

A marker that discovery reads is never passed over in silence: its declaration is
discovered as the group or the handler that the marker asks for, or something is
reported or logged about the declaration or about a declaration around it.  Of the
markers on one declaration, discovery reads the first group marker only, and the
method markers when there is none.  The markers that it does not read are without
any effect.
-/

namespace MarkedRoutes

open MarkedRoutes.Source (SourceParser)

/-! ### Declarations at every depth -/

/-- A declaration and the path of the module around it. -/
structure Sited where
  modulePath : String
  declaration : Declaration

/-- A declaration lies among others or inside one of them: `LiesIn modulePath declarations
enclosing sited` also says which declarations are around it, the outermost first. -/
inductive LiesIn : String → List Declaration → List Sited → Sited → Prop
  | here {modulePath : String} {first : Declaration} {rest : List Declaration} :
      LiesIn modulePath (first :: rest) [] ⟨modulePath, first⟩
  | inside {modulePath : String} {first : Declaration} {rest : List Declaration}
      {enclosing : List Sited} {sited : Sited}
      (hinside : LiesIn (childPath modulePath first.name) first.children enclosing sited) :
      LiesIn modulePath (first :: rest) (⟨modulePath, first⟩ :: enclosing) sited
  | later {modulePath : String} {first : Declaration} {rest : List Declaration}
      {enclosing : List Sited} {sited : Sited}
      (hlater : LiesIn modulePath rest enclosing sited) :
      LiesIn modulePath (first :: rest) enclosing sited

/-- Only modules have other declarations inside. -/
inductive OnlyModulesNest : List Declaration → Prop
  | intro {declarations : List Declaration}
      (hleaf : ∀ declaration ∈ declarations, declaration.kind ≠ .module → declaration.children = [])
      (hinside : ∀ declaration ∈ declarations, OnlyModulesNest declaration.children) :
      OnlyModulesNest declarations

/-- The base paths of the groups around a declaration, one behind the other. -/
def basesOf (enclosing : List Sited) : String :=
  String.join (enclosing.map fun outer => outer.declaration.groupBase?.getD "")

/-- The markers that discovery reads: the first group marker, else every method marker. -/
def Declaration.reads (declaration : Declaration) (marker : Marker) : Prop :=
  ∀ base, declaration.groupBase? = some base → marker = .group base

/-! ### Answers -/

mutual

/-- A discovered group and the groups inside it, at every depth. -/
def DiscoveredGroup.allGroups : DiscoveredGroup → List DiscoveredGroup
  | ⟨name, modulePath, base, handlers, groups, location⟩ =>
    ⟨name, modulePath, base, handlers, groups, location⟩ :: allGroupsOf groups

/-- The groups of a list and the groups inside them, at every depth. -/
def allGroupsOf : List DiscoveredGroup → List DiscoveredGroup
  | [] => []
  | first :: rest => first.allGroups ++ allGroupsOf rest

end

/-- What was found at every depth, and what was said. -/
structure Findings where
  groups : List DiscoveredGroup
  handlers : List DiscoveredHandler
  diagnostics : List Diagnostic
  events : List Event

/-- The findings of a discovery that found some members and left a survey. -/
def Findings.of (members : Members) (survey : Survey) : Findings where
  groups := allGroupsOf members.groups
  handlers := members.handlers ++ allHandlersOf members.groups
  diagnostics := survey.diagnostics
  events := survey.events

/-- A diagnostic is about the declaration. -/
def Sited.IsReported (sited : Sited) (diagnostics : List Diagnostic) : Prop :=
  (∃ reason, .invalidDeclaration sited.declaration.location sited.declaration.name reason ∈
      diagnostics) ∨
    ∃ what, .inaccessibleDeclaration sited.declaration.location sited.declaration.name what ∈
      diagnostics

/-- An event names the declaration. -/
def Sited.IsLogged (sited : Sited) (events : List Event) : Prop :=
  strayMethodEvent sited.declaration sited.modulePath ∈ events ∨
    strayGroupEvent sited.declaration sited.modulePath ∈ events

theorem Sited.IsReported.mono {sited : Sited} {diagnostics more : List Diagnostic}
    (hreported : sited.IsReported diagnostics) (hsubset : diagnostics ⊆ more) :
    sited.IsReported more :=
  hreported.imp (fun ⟨reason, hmem⟩ => ⟨reason, hsubset hmem⟩)
    fun ⟨what, hmem⟩ => ⟨what, hsubset hmem⟩

theorem Sited.IsLogged.mono {sited : Sited} {events more : List Event}
    (hlogged : sited.IsLogged events) (hsubset : events ⊆ more) : sited.IsLogged more :=
  hlogged.imp (fun hmem => hsubset hmem) fun hmem => hsubset hmem

/-- The ways in which a marker on a declaration is answered. -/
inductive Answered (findings : Findings) (base : String) (enclosing : List Sited) (sited : Sited) :
    Marker → Prop
  | group {own : String} {group : DiscoveredGroup} (hmem : group ∈ findings.groups)
      (hname : group.name = sited.declaration.name)
      (hlocation : group.location = sited.declaration.location)
      (hpath : group.modulePath = childPath sited.modulePath sited.declaration.name)
      (hbase : group.base = base ++ basesOf enclosing ++ own) :
      Answered findings base enclosing sited (.group own)
  | handler {method own : String} {handler : DiscoveredHandler} (hmem : handler ∈ findings.handlers)
      (hname : handler.name = sited.declaration.name)
      (hlocation : handler.location = sited.declaration.location)
      (hpath : handler.path = childPath sited.modulePath sited.declaration.name)
      (hmethod : handler.method = method)
      (hroute : handler.route = base ++ basesOf enclosing ++ own) :
      Answered findings base enclosing sited (.method method own)
  | reported {marker : Marker} {about : Sited} (habout : about ∈ enclosing ++ [sited])
      (hreported : about.IsReported findings.diagnostics) :
      Answered findings base enclosing sited marker
  | logged {marker : Marker} {about : Sited} (habout : about ∈ enclosing ++ [sited])
      (hlogged : about.IsLogged findings.events) :
      Answered findings base enclosing sited marker

/-- The small findings are among the large ones. -/
structure Findings.Within (small large : Findings) : Prop where
  groups : small.groups ⊆ large.groups
  handlers : small.handlers ⊆ large.handlers
  diagnostics : small.diagnostics ⊆ large.diagnostics
  events : small.events ⊆ large.events

section Answers

variable {findings large : Findings} {base : String} {enclosing : List Sited} {sited : Sited}
  {marker : Marker}

theorem Answered.mono (hanswered : Answered findings base enclosing sited marker)
    (hwithin : findings.Within large) : Answered large base enclosing sited marker := by
  cases hanswered with
  | group hmem hname hlocation hpath hbase =>
      exact .group (hwithin.groups hmem) hname hlocation hpath hbase
  | handler hmem hname hlocation hpath hmethod hroute =>
      exact .handler (hwithin.handlers hmem) hname hlocation hpath hmethod hroute
  | reported habout hreported => exact .reported habout (hreported.mono hwithin.diagnostics)
  | logged habout hlogged => exact .logged habout (hlogged.mono hwithin.events)

theorem basesOf_nil : basesOf [] = "" := rfl

theorem basesOf_cons (outer : Sited) (enclosing : List Sited) :
    basesOf (outer :: enclosing) =
      outer.declaration.groupBase?.getD "" ++ basesOf enclosing := by
  rw [basesOf, List.map_cons, String.join_cons]
  rfl

/-- What is answered inside a group is answered around it. -/
theorem Answered.inside (outer : Sited)
    (hanswered :
      Answered findings (base ++ outer.declaration.groupBase?.getD "") enclosing sited marker) :
    Answered findings base (outer :: enclosing) sited marker := by
  have hbases : base ++ outer.declaration.groupBase?.getD "" ++ basesOf enclosing =
      base ++ basesOf (outer :: enclosing) := by
    rw [basesOf_cons, String.append_assoc]
  cases hanswered with
  | group hmem hname hlocation hpath hbase =>
      exact .group hmem hname hlocation hpath (hbases ▸ hbase)
  | handler hmem hname hlocation hpath hmethod hroute =>
      exact .handler hmem hname hlocation hpath hmethod (hbases ▸ hroute)
  | reported habout hreported => exact .reported (List.mem_cons_of_mem _ habout) hreported
  | logged habout hlogged => exact .logged (List.mem_cons_of_mem _ habout) hlogged

end Answers

/-! ### Strays -/

/-- Without a group marker, every marker is a method marker. -/
theorem exists_mem_methods {declaration : Declaration} {marker : Marker}
    (hgroup : ¬ declaration.isGroup = true) (hmem : marker ∈ declaration.markers) :
    ∃ method own, marker = .method method own ∧ (method, own) ∈ declaration.methods := by
  cases marker with
  | group base =>
      rw [Declaration.isGroup, Option.isSome_iff_ne_none, not_not, Declaration.groupBase?,
        List.findSome?_eq_none_iff] at hgroup
      cases hgroup _ hmem
  | method method own => exact ⟨method, own, rfl, List.mem_filterMap.mpr ⟨_, hmem, rfl⟩⟩

theorem methods_isEmpty_eq_false {declaration : Declaration}
    (hgroup : ¬ declaration.isGroup = true) (hmarked : declaration.markers ≠ []) :
    declaration.methods.isEmpty = false := by
  obtain ⟨marker, hmem⟩ := List.exists_mem_of_ne_nil _ hmarked
  obtain ⟨method, own, -, hmethod⟩ := exists_mem_methods hgroup hmem
  exact List.isEmpty_eq_false_iff.mpr (List.ne_nil_of_mem hmethod)

/-- The strays of a declaration: its own, and those inside it when it is a module. -/
theorem strayEvents_eq (modulePath : String) (declaration : Declaration) :
    strayEvents modulePath declaration =
      (if declaration.methods.isEmpty then [] else [strayMethodEvent declaration modulePath]) ++
        (if declaration.kind = .module then
          strayChildEvents (childPath modulePath declaration.name) declaration.children
        else []) := by
  obtain ⟨name, kind, visibility, markers, children, signature, hasBody, location⟩ := declaration
  rw [strayEvents]

theorem strayMethodEvent_mem (modulePath : String) {declaration : Declaration}
    (hmethods : declaration.methods.isEmpty = false) :
    strayMethodEvent declaration modulePath ∈ strayEvents modulePath declaration := by
  rw [strayEvents_eq, hmethods]
  exact List.mem_append_left _ (List.mem_singleton_self _)

theorem strayChildEvents_subset (modulePath : String) {declaration : Declaration}
    (hkind : declaration.kind = .module) :
    strayChildEvents (childPath modulePath declaration.name) declaration.children ⊆
      strayEvents modulePath declaration := by
  rw [strayEvents_eq, if_pos hkind]
  exact List.subset_append_right _ _

section Nesting

variable {modulePath : String} {first : Declaration} {rest declarations : List Declaration}
  {enclosing : List Sited} {sited : Sited}

theorem OnlyModulesNest.later (hnests : OnlyModulesNest (first :: rest)) :
    OnlyModulesNest rest := by
  obtain ⟨hleaf, hinside⟩ := hnests
  exact .intro (fun declaration hmem => hleaf declaration (List.mem_cons_of_mem _ hmem))
    fun declaration hmem => hinside declaration (List.mem_cons_of_mem _ hmem)

theorem OnlyModulesNest.head (hnests : OnlyModulesNest (first :: rest)) :
    OnlyModulesNest [first] := by
  obtain ⟨hleaf, hinside⟩ := hnests
  have hsubset : [first] ⊆ first :: rest := by simp
  exact .intro (fun declaration hmem => hleaf declaration (hsubset hmem))
    fun declaration hmem => hinside declaration (hsubset hmem)

theorem OnlyModulesNest.inside (hnests : OnlyModulesNest (first :: rest)) :
    OnlyModulesNest first.children := by
  obtain ⟨-, hinside⟩ := hnests
  exact hinside first List.mem_cons_self

/-- A declaration that has others inside is a module. -/
theorem OnlyModulesNest.kind_eq (hnests : OnlyModulesNest (first :: rest))
    (hinside : LiesIn modulePath first.children enclosing sited) : first.kind = .module := by
  obtain ⟨hleaf, -⟩ := hnests
  by_contra hkind
  rw [hleaf first List.mem_cons_self hkind] at hinside
  cases hinside

/-- Every marked declaration inside an unmarked module is logged, or one around it is. -/
theorem logged_of_strayChildEvents (hlies : LiesIn modulePath declarations enclosing sited)
    (hnests : OnlyModulesNest declarations) (hmarked : sited.declaration.markers ≠ []) :
    ∃ about ∈ enclosing ++ [sited],
      about.IsLogged (strayChildEvents modulePath declarations) := by
  induction hlies with
  | @here modulePath first rest =>
      refine ⟨_, List.mem_singleton_self _, ?_⟩
      rw [strayChildEvents]
      by_cases hgroup : first.isGroup = true
      · rw [if_pos hgroup]
        exact Or.inr (List.mem_append_left _ (List.mem_singleton_self _))
      · rw [if_neg hgroup]
        have hevent := strayMethodEvent_mem modulePath (methods_isEmpty_eq_false hgroup hmarked)
        exact Or.inl (List.mem_append_left _ hevent)
  | @inside modulePath first rest enclosing sited hinside ih =>
      rw [strayChildEvents]
      by_cases hgroup : first.isGroup = true
      · rw [if_pos hgroup]
        refine ⟨⟨modulePath, first⟩, List.mem_cons_self, Or.inr ?_⟩
        exact List.mem_append_left _ (List.mem_singleton_self _)
      · rw [if_neg hgroup]
        obtain ⟨about, habout, hlogged⟩ := ih hnests.inside hmarked
        have hsubset := strayChildEvents_subset modulePath (hnests.kind_eq hinside)
        exact ⟨about, List.mem_cons_of_mem _ habout,
          hlogged.mono (List.subset_append_of_subset_left _ hsubset)⟩
  | @later modulePath first rest enclosing sited hlater ih =>
      obtain ⟨about, habout, hlogged⟩ := ih hnests.later hmarked
      rw [strayChildEvents]
      exact ⟨about, habout, hlogged.mono (List.subset_append_right _ _)⟩

/-- The same for one declaration without a group marker. -/
theorem logged_of_strayEvents (hlies : LiesIn modulePath [first] enclosing sited)
    (hnests : OnlyModulesNest [first]) (hgroup : ¬ first.isGroup = true)
    (hmarked : sited.declaration.markers ≠ []) :
    ∃ about ∈ enclosing ++ [sited], about.IsLogged (strayEvents modulePath first) := by
  have hlogged := logged_of_strayChildEvents hlies hnests hmarked
  rwa [strayChildEvents, strayChildEvents, List.append_nil, if_neg hgroup] at hlogged

end Nesting

/-! ### Surveys grow -/

/-- Nothing that was reported or logged is taken back. -/
structure Survey.Grows (before after : Survey) : Prop where
  diagnostics : before.diagnostics ⊆ after.diagnostics
  events : before.events ⊆ after.events

namespace Survey.Grows

variable {before between after : Survey}

theorem refl (survey : Survey) : survey.Grows survey := ⟨List.Subset.refl _, List.Subset.refl _⟩

theorem trans (hfirst : before.Grows between) (hsecond : between.Grows after) :
    before.Grows after :=
  ⟨List.Subset.trans hfirst.diagnostics hsecond.diagnostics,
    List.Subset.trans hfirst.events hsecond.events⟩

theorem report (survey : Survey) (diagnostic : Diagnostic) :
    survey.Grows (survey.report diagnostic) :=
  ⟨List.subset_append_left _ _, List.Subset.refl _⟩

theorem log (survey : Survey) (events : List Event) : survey.Grows (survey.log events) :=
  ⟨List.Subset.refl _, List.subset_append_left _ _⟩

theorem requireVisible (survey : Survey) (declaration : Declaration) (what : Unreachable) :
    survey.Grows (survey.requireVisible declaration what) := by
  rw [Survey.requireVisible]
  split_ifs
  · exact report _ _
  · exact refl _

/-- A group is entered: its module path is seen from now on, and its visibility is checked. -/
theorem enter (survey : Survey) (seen : List String) (declaration : Declaration)
    (what : Unreachable) :
    survey.Grows (Survey.requireVisible { survey with seen } declaration what) :=
  ⟨(requireVisible { survey with seen } declaration what).diagnostics,
    (requireVisible { survey with seen } declaration what).events⟩

end Survey.Grows

theorem Survey.isReported_invalid (survey : Survey) (modulePath : String)
    (declaration : Declaration) (reason : InvalidReason) :
    Sited.IsReported ⟨modulePath, declaration⟩ (survey.invalid declaration reason).diagnostics :=
  Or.inl ⟨reason, List.mem_append_right _ (List.mem_singleton_self _)⟩

/-- A group-marked declaration is reported, or it is a group with what is found inside it. -/
theorem discoverGroup_cases (survey : Survey) (parentModule parentBase : String)
    (declaration : Declaration) :
    (∃ after, discoverGroup survey parentModule parentBase declaration = (none, after) ∧
        survey.Grows after ∧ Sited.IsReported ⟨parentModule, declaration⟩ after.diagnostics) ∨
      ∃ inner, survey.Grows inner ∧
        discoverGroup survey parentModule parentBase declaration =
          let found := discoverMembers inner (childPath parentModule declaration.name)
            (parentBase ++ declaration.groupBase?.getD "") declaration.children
          (some ⟨declaration.name, childPath parentModule declaration.name,
            parentBase ++ declaration.groupBase?.getD "", found.1.handlers, found.1.groups,
            declaration.location⟩, found.2) := by
  obtain ⟨name, kind, visibility, markers, children, signature, hasBody, location⟩ := declaration
  rw [discoverGroup]
  dsimp only
  split_ifs with hkind hbody hseen hcontrol
  · exact Or.inl ⟨_, rfl, .report _ _, Survey.isReported_invalid _ _ _ _⟩
  · exact Or.inl ⟨_, rfl, .report _ _, Survey.isReported_invalid _ _ _ _⟩
  · exact Or.inl ⟨_, rfl, .report _ _, Survey.isReported_invalid _ _ _ _⟩
  · exact Or.inl ⟨_, rfl, (Survey.Grows.enter _ _ _ _).trans (.report _ _),
      Survey.isReported_invalid _ _ _ _⟩
  · exact Or.inr ⟨_, .enter _ _ _ _, rfl⟩

/-- A declaration with a method marker is reported, or it is a handler with the only method
marker. -/
theorem discoverHandler_cases (survey : Survey) (modulePath base : String)
    (declaration : Declaration) :
    survey.Grows (discoverHandler survey modulePath base declaration).2 ∧
      (Sited.IsReported ⟨modulePath, declaration⟩
          (discoverHandler survey modulePath base declaration).2.diagnostics ∨
        declaration.kind = .function ∧
          ∃ method own handler, declaration.methods = [(method, own)] ∧
            (discoverHandler survey modulePath base declaration).1 = some handler ∧
            handler.name = declaration.name ∧ handler.location = declaration.location ∧
            handler.path = childPath modulePath declaration.name ∧ handler.method = method ∧
            handler.route = base ++ own) := by
  rw [discoverHandler]
  split
  next signature hkind hsignature =>
    split
    next method own hmethods =>
      dsimp only
      split_ifs with hcontrol
      · exact ⟨(Survey.Grows.requireVisible _ _ _).trans (.report _ _),
          Or.inl (Survey.isReported_invalid _ _ _ _)⟩
      · exact ⟨.requireVisible _ _ _,
          Or.inr ⟨hkind, method, own, _, hmethods, rfl, rfl, rfl, rfl, rfl, rfl⟩⟩
    next => exact ⟨.report _ _, Or.inl (Survey.isReported_invalid _ _ _ _)⟩
  next => exact ⟨.report _ _, Or.inl (Survey.isReported_invalid _ _ _ _)⟩

mutual

theorem grows_discoverGroup {survey : Survey} {parentModule parentBase : String} :
    ∀ declaration : Declaration,
    survey.Grows (discoverGroup survey parentModule parentBase declaration).2
  | ⟨name, kind, visibility, markers, children, signature, hasBody, location⟩ => by
      rcases discoverGroup_cases survey parentModule parentBase
        ⟨name, kind, visibility, markers, children, signature, hasBody, location⟩ with
        ⟨after, hgroup, hgrows, -⟩ | ⟨inner, hgrows, hgroup⟩
      · rw [hgroup]
        exact hgrows
      · rw [hgroup]
        exact hgrows.trans (grows_discoverMembers children)

theorem grows_discoverMembers {survey : Survey} {modulePath base : String} :
    ∀ children : List Declaration,
    survey.Grows (discoverMembers survey modulePath base children).2
  | [] => .refl _
  | child :: rest => by
      rw [discoverMembers]
      split_ifs
      · exact (grows_discoverGroup child).trans (grows_discoverMembers rest)
      · exact (Survey.Grows.log _ _).trans (grows_discoverMembers rest)
      · exact (discoverHandler_cases survey modulePath base child).1.trans
          (grows_discoverMembers rest)

end

theorem grows_discoverItems {survey : Survey} {modulePath : String} {items : List Declaration} :
    survey.Grows (discoverItems survey modulePath items).2 := by
  induction items generalizing survey with
  | nil => exact .refl _
  | cons item items ih =>
      rw [discoverItems]
      split_ifs
      · exact (grows_discoverGroup item).trans ih
      · exact (Survey.Grows.log _ _).trans ih

theorem grows_discoverUnits {survey : Survey} {units : List SourceUnit} :
    survey.Grows (discoverUnits survey units).2 := by
  induction units generalizing survey with
  | nil => exact .refl _
  | cons unit units ih =>
      rw [discoverUnits]
      exact grows_discoverItems.trans ih

/-! ### Findings grow -/

theorem allGroupsOf_eq_flatMap (groups : List DiscoveredGroup) :
    allGroupsOf groups = groups.flatMap DiscoveredGroup.allGroups := by
  induction groups with
  | nil => rfl
  | cons group groups ih => rw [allGroupsOf, ih, List.flatMap_cons]

theorem allHandlersOf_eq_flatMap (groups : List DiscoveredGroup) :
    allHandlersOf groups = groups.flatMap DiscoveredGroup.allHandlers := by
  induction groups with
  | nil => rfl
  | cons group groups ih => rw [allHandlersOf, ih, List.flatMap_cons]

theorem flatMap_subset_flatMap {α β : Type} {items more : List α} (hsubset : items ⊆ more)
    (parts : α → List β) : items.flatMap parts ⊆ more.flatMap parts := by
  intro part hmem
  obtain ⟨item, hitem, hpart⟩ := List.mem_flatMap.mp hmem
  exact List.mem_flatMap.mpr ⟨item, hsubset hitem, hpart⟩

namespace Findings

variable {members more : Members} {before after : Survey}

/-- More members and a longer survey make larger findings. -/
theorem within_of (hhandlers : members.handlers ⊆ more.handlers)
    (hgroups : members.groups ⊆ more.groups) (hgrows : before.Grows after) :
    (of members before).Within (of more after) where
  groups := by
    rw [of, of, allGroupsOf_eq_flatMap, allGroupsOf_eq_flatMap]
    exact flatMap_subset_flatMap hgroups _
  handlers := by
    rw [of, of, allHandlersOf_eq_flatMap, allHandlersOf_eq_flatMap]
    refine List.append_subset.mpr ⟨List.subset_append_of_subset_left _ hhandlers, ?_⟩
    exact List.subset_append_of_subset_right _ (flatMap_subset_flatMap hgroups _)
  diagnostics := hgrows.diagnostics
  events := hgrows.events

/-- What is found inside a group is found with the group. -/
theorem within_group (members : Members) (survey : Survey) (name modulePath base : String)
    (location : Location) :
    (of members survey).Within
      (of ⟨[], [⟨name, modulePath, base, members.handlers, members.groups, location⟩]⟩ survey) where
  groups := by
    intro group hmem
    rw [of, allGroupsOf, DiscoveredGroup.allGroups]
    exact List.mem_append_left _ (List.mem_cons_of_mem _ hmem)
  handlers := by
    intro handler hmem
    rw [of, allHandlersOf, DiscoveredGroup.allHandlers]
    exact List.mem_append_right _ (List.mem_append_left _ hmem)
  diagnostics := List.Subset.refl _
  events := List.Subset.refl _

end Findings

/-! ### Every marker that is read -/

section Reading

variable {modulePath : String} {declaration : Declaration} {declarations : List Declaration}
  {enclosing : List Sited} {sited : Sited} {marker : Marker}

/-- The marker of a group is answered. -/
theorem answered_discoverGroup (survey : Survey) (base : String)
    (hgroup : declaration.isGroup = true) (hreads : declaration.reads marker) :
    Answered (.of ⟨[], (discoverGroup survey modulePath base declaration).1.toList⟩
      (discoverGroup survey modulePath base declaration).2) base [] ⟨modulePath, declaration⟩
        marker := by
  obtain ⟨own, hown⟩ := Option.isSome_iff_exists.mp hgroup
  rw [hreads own hown]
  rcases discoverGroup_cases survey modulePath base declaration with
    ⟨after, hfound, -, hreported⟩ | ⟨inner, -, hfound⟩
  · rw [hfound]
    exact .reported (List.mem_singleton_self _) hreported
  · rw [hfound, hown]
    refine .group List.mem_cons_self rfl rfl rfl ?_
    rw [basesOf_nil, String.append_empty]
    rfl

/-- What is answered inside a group, wherever its discovery starts, is answered with the group. -/
theorem answered_inside_group (survey : Survey) (base : String)
    (hinside : ∀ inner own,
      Answered (.of
          (discoverMembers inner (childPath modulePath declaration.name) own
            declaration.children).1
          (discoverMembers inner (childPath modulePath declaration.name) own
            declaration.children).2)
        own enclosing sited marker) :
    Answered (.of ⟨[], (discoverGroup survey modulePath base declaration).1.toList⟩
      (discoverGroup survey modulePath base declaration).2) base
        (⟨modulePath, declaration⟩ :: enclosing) sited marker := by
  rcases discoverGroup_cases survey modulePath base declaration with
    ⟨after, hfound, -, hreported⟩ | ⟨inner, -, hfound⟩
  · rw [hfound]
    exact .reported List.mem_cons_self hreported
  · rw [hfound]
    have hinner := hinside inner (base ++ declaration.groupBase?.getD "")
    exact (hinner.inside ⟨modulePath, declaration⟩).mono (Findings.within_group _ _ _ _ _ _)

/-- The marker of a handler is answered. -/
theorem answered_discoverHandler (survey : Survey) (base : String)
    (hgroup : ¬ declaration.isGroup = true) (hmem : marker ∈ declaration.markers) :
    Answered (.of ⟨(discoverHandler survey modulePath base declaration).1.toList, []⟩
      (discoverHandler survey modulePath base declaration).2) base [] ⟨modulePath, declaration⟩
        marker := by
  rcases (discoverHandler_cases survey modulePath base declaration).2 with
    hreported |
      ⟨-, method, own, handler, hmethods, hfound, hname, hlocation, hpath, hmethod, hroute⟩
  · exact .reported (List.mem_singleton_self _) hreported
  · obtain ⟨asked, path, rfl, hasked⟩ := exists_mem_methods hgroup hmem
    rw [hmethods, List.mem_singleton] at hasked
    cases hasked
    rw [hfound]
    refine .handler List.mem_cons_self hname hlocation hpath hmethod ?_
    rw [hroute, basesOf_nil, String.append_empty]

/-- Every marker that is read among the members of a group is answered. -/
theorem answered_discoverMembers (hlies : LiesIn modulePath declarations enclosing sited)
    (hnests : OnlyModulesNest declarations) (hmem : marker ∈ sited.declaration.markers)
    (hreads : sited.declaration.reads marker) (survey : Survey) (base : String) :
    Answered (.of (discoverMembers survey modulePath base declarations).1
      (discoverMembers survey modulePath base declarations).2) base enclosing sited marker := by
  induction hlies generalizing survey base with
  | @here modulePath first rest =>
      rw [discoverMembers]
      split_ifs with hgroup hmethods
      · exact (answered_discoverGroup survey base hgroup hreads).mono
          (Findings.within_of (List.nil_subset _) (List.subset_append_left _ _)
            (grows_discoverMembers rest))
      · rw [methods_isEmpty_eq_false hgroup (List.ne_nil_of_mem hmem)] at hmethods
        cases hmethods
      · exact (answered_discoverHandler survey base hgroup hmem).mono
          (Findings.within_of (List.subset_append_left _ _) (List.nil_subset _)
            (grows_discoverMembers rest))
  | @inside modulePath first rest enclosing sited hinside ih =>
      rw [discoverMembers]
      split_ifs with hgroup hmethods
      · exact (answered_inside_group survey base
          fun inner own => ih hnests.inside hmem hreads inner own).mono
            (Findings.within_of (List.nil_subset _) (List.subset_append_left _ _)
              (grows_discoverMembers rest))
      · obtain ⟨about, habout, hlogged⟩ := logged_of_strayEvents (.inside hinside) hnests.head
          hgroup (List.ne_nil_of_mem hmem)
        have hlog : strayEvents modulePath first ⊆
            (survey.log (strayEvents modulePath first)).events := List.subset_append_right _ _
        exact .logged habout
          (hlogged.mono (List.Subset.trans hlog (grows_discoverMembers rest).events))
      · rcases (discoverHandler_cases survey modulePath base first).2 with
          hreported | ⟨hfunction, -⟩
        · exact .reported List.mem_cons_self
            (hreported.mono (grows_discoverMembers rest).diagnostics)
        · cases hfunction.symm.trans (hnests.kind_eq hinside)
  | @later modulePath first rest enclosing sited hlater ih =>
      rw [discoverMembers]
      split_ifs with hgroup hmethods
      · exact (ih hnests.later hmem hreads _ _).mono
          (Findings.within_of (List.Subset.refl _) (List.subset_append_right _ _) (.refl _))
      · exact ih hnests.later hmem hreads _ _
      · exact (ih hnests.later hmem hreads _ _).mono
          (Findings.within_of (List.subset_append_right _ _) (List.Subset.refl _) (.refl _))

/-- Every marker that is read in the items of a source is answered. -/
theorem answered_discoverItems (hlies : LiesIn modulePath declarations enclosing sited)
    (hnests : OnlyModulesNest declarations) (hmem : marker ∈ sited.declaration.markers)
    (hreads : sited.declaration.reads marker) (survey : Survey) :
    Answered (.of ⟨[], (discoverItems survey modulePath declarations).1⟩
      (discoverItems survey modulePath declarations).2) "" enclosing sited marker := by
  induction declarations generalizing survey with
  | nil => cases hlies
  | cons first rest ih =>
      rw [discoverItems]
      have hstrays : LiesIn modulePath [first] enclosing sited → ¬ first.isGroup = true →
          Answered (.of ⟨[], (discoverItems (survey.log (strayEvents modulePath first))
              modulePath rest).1⟩
            (discoverItems (survey.log (strayEvents modulePath first)) modulePath rest).2) ""
              enclosing sited marker := by
        intro hhead hgroup
        obtain ⟨about, habout, hlogged⟩ :=
          logged_of_strayEvents hhead hnests.head hgroup (List.ne_nil_of_mem hmem)
        have hlog : strayEvents modulePath first ⊆
            (survey.log (strayEvents modulePath first)).events := List.subset_append_right _ _
        exact .logged habout (hlogged.mono (List.Subset.trans hlog grows_discoverItems.events))
      split_ifs with hgroup
      · cases hlies with
        | here =>
            exact (answered_discoverGroup survey "" hgroup hreads).mono
              (Findings.within_of (List.nil_subset _) (List.subset_append_left _ _)
                grows_discoverItems)
        | inside hinside =>
            exact (answered_inside_group survey "" fun inner own =>
              answered_discoverMembers hinside hnests.inside hmem hreads inner own).mono
                (Findings.within_of (List.nil_subset _) (List.subset_append_left _ _)
                  grows_discoverItems)
        | later hlater =>
            exact (ih hlater hnests.later _).mono
              (Findings.within_of (List.nil_subset _) (List.subset_append_right _ _) (.refl _))
      · cases hlies with
        | here => exact hstrays .here hgroup
        | inside hinside => exact hstrays (.inside hinside) hgroup
        | later hlater => exact ih hlater hnests.later _

theorem answered_discoverUnits {units : List SourceUnit} {unit : SourceUnit} (hunit : unit ∈ units)
    (hlies : LiesIn unit.modulePath unit.items enclosing sited)
    (hnests : OnlyModulesNest unit.items) (hmem : marker ∈ sited.declaration.markers)
    (hreads : sited.declaration.reads marker) (survey : Survey) :
    Answered (.of ⟨[], (discoverUnits survey units).1⟩ (discoverUnits survey units).2) ""
      enclosing sited marker := by
  induction units generalizing survey with
  | nil => cases hunit
  | cons first rest ih =>
      rw [discoverUnits]
      rcases List.mem_cons.mp hunit with rfl | hunit
      · exact (answered_discoverItems hlies hnests hmem hreads survey).mono
          (Findings.within_of (List.nil_subset _) (List.subset_append_left _ _)
            grows_discoverUnits)
      · exact (ih hunit _).mono
          (Findings.within_of (List.nil_subset _) (List.subset_append_right _ _) (.refl _))

end Reading

/-! ### Loaded declarations -/

theorem onlyModulesNest_nil : OnlyModulesNest [] :=
  .intro (fun _ hmem => absurd hmem List.not_mem_nil) fun _ hmem => absurd hmem List.not_mem_nil

theorem onlyModulesNest_cons {first : Declaration} {rest : List Declaration}
    (hleaf : first.kind ≠ .module → first.children = []) (hinside : OnlyModulesNest first.children)
    (hrest : OnlyModulesNest rest) : OnlyModulesNest (first :: rest) := by
  obtain ⟨hleaves, hinsides⟩ := hrest
  exact .intro (List.forall_mem_cons.mpr ⟨hleaf, hleaves⟩)
    (List.forall_mem_cons.mpr ⟨hinside, hinsides⟩)

mutual

theorem nests_of_declarationOfItem? [SourceParser] {file : String} {declaration : Declaration} :
    ∀ item : Source.Item, declarationOfItem? file item = some declaration →
    (declaration.kind ≠ .module → declaration.children = []) ∧
      OnlyModulesNest declaration.children
  | .module attributes visibility name line none => by
      intro hitem
      rw [declarationOfItem?] at hitem
      cases hitem
      exact ⟨fun _ => rfl, onlyModulesNest_nil⟩
  | .module attributes visibility name line (some items) => by
      intro hitem
      rw [declarationOfItem?] at hitem
      cases hitem
      exact ⟨fun hkind => absurd rfl hkind, onlyModulesNest_declarationsOfItems items⟩
  | .function _ _ _ | .implementation _ _ _ _ | .named _ _ _ _ _ => by
      intro hitem
      rw [declarationOfItem?] at hitem
      cases hitem
      exact ⟨fun _ => rfl, onlyModulesNest_nil⟩
  | .other _ => by
      intro hitem
      rw [declarationOfItem?] at hitem
      cases hitem

/-- Among loaded declarations, only modules have others inside. -/
theorem onlyModulesNest_declarationsOfItems [SourceParser] {file : String} :
    ∀ items : List Source.Item, OnlyModulesNest (declarationsOfItems file items)
  | [] => by
      rw [declarationsOfItems]
      exact onlyModulesNest_nil
  | first :: rest => by
      rw [declarationsOfItems]
      cases hfirst : declarationOfItem? file first with
      | none => exact onlyModulesNest_declarationsOfItems rest
      | some declaration =>
          obtain ⟨hleaf, hinside⟩ := nests_of_declarationOfItem? first hfirst
          exact onlyModulesNest_cons hleaf hinside (onlyModulesNest_declarationsOfItems rest)

end

/-! ### Markers that are not read -/

def Declaration.readMarkers (declaration : Declaration) : List Marker :=
  match declaration.groupBase? with
  | some base => [.group base]
  | none => declaration.markers

mutual

/-- The declaration with the markers that are read, at every depth. -/
def Declaration.asRead : Declaration → Declaration
  | ⟨name, kind, visibility, markers, children, signature, hasBody, location⟩ =>
    let declaration : Declaration :=
      ⟨name, kind, visibility, markers, children, signature, hasBody, location⟩
    ⟨name, kind, visibility, declaration.readMarkers, asReadOf children, signature, hasBody,
      location⟩

/-- Declarations with the markers that are read, at every depth. -/
def asReadOf : List Declaration → List Declaration
  | [] => []
  | first :: rest => first.asRead :: asReadOf rest

end

def SourceSet.asRead (sources : SourceSet) : SourceSet :=
  { sources with units := sources.units.map fun unit => { unit with items := asReadOf unit.items } }

theorem asRead_eq (declaration : Declaration) :
    declaration.asRead =
      { declaration with
        markers := declaration.readMarkers
        children := asReadOf declaration.children } := by
  obtain ⟨name, kind, visibility, markers, children, signature, hasBody, location⟩ := declaration
  rw [Declaration.asRead]

theorem groupBase?_asRead (declaration : Declaration) :
    declaration.asRead.groupBase? = declaration.groupBase? := by
  rw [asRead_eq, Declaration.groupBase?, Declaration.readMarkers]
  cases hbase : declaration.groupBase? with
  | none => exact hbase
  | some base => rfl

theorem isGroup_asRead (declaration : Declaration) :
    declaration.asRead.isGroup = declaration.isGroup :=
  congrArg Option.isSome (groupBase?_asRead declaration)

/-- Without a group marker, all markers are read. -/
theorem asRead_of_not_isGroup {declaration : Declaration} (hgroup : ¬ declaration.isGroup = true) :
    declaration.asRead = { declaration with children := asReadOf declaration.children } := by
  rw [Declaration.isGroup, Option.isSome_iff_ne_none, not_not] at hgroup
  rw [asRead_eq, Declaration.readMarkers, hgroup]

mutual

theorem strayEvents_asRead {modulePath : String} : ∀ declaration : Declaration,
    ¬ declaration.isGroup = true →
    strayEvents modulePath declaration.asRead = strayEvents modulePath declaration
  | ⟨name, kind, visibility, markers, children, signature, hasBody, location⟩ => by
      intro hgroup
      rw [asRead_of_not_isGroup hgroup, strayEvents_eq, strayEvents_eq]
      dsimp only
      rw [strayChildEvents_asRead children]
      rfl

theorem strayChildEvents_asRead {modulePath : String} : ∀ children : List Declaration,
    strayChildEvents modulePath (asReadOf children) = strayChildEvents modulePath children
  | [] => rfl
  | first :: rest => by
      rw [asReadOf, strayChildEvents, strayChildEvents, isGroup_asRead,
        strayChildEvents_asRead rest]
      split_ifs with hgroup
      · rw [asRead_eq]
        rfl
      · rw [strayEvents_asRead first hgroup]

end

theorem methods_asRead {declaration : Declaration} (hgroup : ¬ declaration.isGroup = true) :
    declaration.asRead.methods = declaration.methods := by
  rw [asRead_of_not_isGroup hgroup]
  rfl

theorem discoverHandler_asRead {survey : Survey} {modulePath base : String}
    {declaration : Declaration} (hgroup : ¬ declaration.isGroup = true) :
    discoverHandler survey modulePath base declaration.asRead =
      discoverHandler survey modulePath base declaration := by
  rw [asRead_of_not_isGroup hgroup]
  rfl

mutual

theorem discoverGroup_asRead {survey : Survey} {parentModule parentBase : String} :
    ∀ declaration : Declaration,
    discoverGroup survey parentModule parentBase declaration.asRead =
      discoverGroup survey parentModule parentBase declaration
  | ⟨name, kind, visibility, markers, children, signature, hasBody, location⟩ => by
      have hbase := groupBase?_asRead
        ⟨name, kind, visibility, markers, children, signature, hasBody, location⟩
      rw [Declaration.asRead] at hbase ⊢
      rw [discoverGroup, discoverGroup]
      dsimp only at hbase ⊢
      rw [hbase]
      split_ifs
      · rfl
      · rfl
      · rfl
      · rfl
      · rw [discoverMembers_asRead children]
        rfl

theorem discoverMembers_asRead {survey : Survey} {modulePath base : String} :
    ∀ children : List Declaration,
    discoverMembers survey modulePath base (asReadOf children) =
      discoverMembers survey modulePath base children
  | [] => rfl
  | child :: rest => by
      rw [asReadOf, discoverMembers, discoverMembers, isGroup_asRead]
      by_cases hgroup : child.isGroup = true
      · rw [if_pos hgroup, if_pos hgroup, discoverGroup_asRead child]
        simp only [discoverMembers_asRead rest]
      · rw [if_neg hgroup, if_neg hgroup, methods_asRead hgroup, strayEvents_asRead child hgroup,
          discoverHandler_asRead hgroup]
        simp only [discoverMembers_asRead rest]

end

theorem discoverItems_asRead {survey : Survey} {modulePath : String} {items : List Declaration} :
    discoverItems survey modulePath (asReadOf items) = discoverItems survey modulePath items := by
  induction items generalizing survey with
  | nil => rfl
  | cons item items ih =>
      rw [asReadOf, discoverItems, discoverItems, isGroup_asRead]
      by_cases hgroup : item.isGroup = true
      · rw [if_pos hgroup, if_pos hgroup, discoverGroup_asRead item]
        simp only [ih]
      · rw [if_neg hgroup, if_neg hgroup, strayEvents_asRead item hgroup, ih]

theorem discoverUnits_asRead {survey : Survey} {units : List SourceUnit} :
    discoverUnits survey (units.map fun unit => { unit with items := asReadOf unit.items }) =
      discoverUnits survey units := by
  induction units generalizing survey with
  | nil => rfl
  | cons unit units ih =>
      rw [List.map_cons, discoverUnits, discoverUnits, discoverItems_asRead]
      simp only [ih]

/-- Every marker that discovery reads is answered, and the others could be left away. -/
theorem discover_answers [SourceParser] {sources : SourceSet} (hloaded : sources.IsLoaded) :
    (∀ unit ∈ sources.units, ∀ enclosing sited,
      LiesIn unit.modulePath unit.items enclosing sited →
        ∀ marker ∈ sited.declaration.markers, sited.declaration.reads marker →
          Answered (.of ⟨[], (discover sources).1⟩ (discover sources).2) "" enclosing sited
            marker) ∧
      discover sources.asRead = discover sources := by
  constructor
  · intro unit hunit enclosing sited hlies marker hmem hreads
    obtain ⟨items, hitems⟩ := hloaded unit hunit
    have hnests : OnlyModulesNest unit.items := hitems ▸ onlyModulesNest_declarationsOfItems items
    exact answered_discoverUnits hunit hlies hnests hmem hreads .empty
  · exact discoverUnits_asRead

/-- A public function without parameters that carries one attribute without arguments. -/
def bareFunction (name marker : String) : Source.Item :=
  .function [⟨false, false, [marker], .bare⟩] .everywhere ⟨name, 1, [], none, false, false, false⟩

def bareDeclaration (name method : String) : Declaration :=
  ⟨name, .function, .everywhere, [.method method ""], [], some ⟨[], none, false, false, false⟩,
    false, ⟨"routes.rs", 1⟩⟩

/-- The declaration of `pub mod rooms { #[get] pub fn list() {} }`. -/
def roomsDeclaration : Declaration :=
  ⟨"rooms", .module, .everywhere, [], [bareDeclaration "list" "GET"], none, true,
    ⟨"routes.rs", 1⟩⟩

/-- A marked function in a module without a marker. -/
def roomsSources : SourceSet := ⟨[⟨"crate", "routes.rs", [roomsDeclaration]⟩], []⟩

section Standard

attribute [local instance] SourceParser.standard

theorem discover_answers_rooms :
    roomsSources.IsLoaded ∧
      Answered (.of ⟨[], (discover roomsSources).1⟩ (discover roomsSources).2) ""
        [⟨"crate", roomsDeclaration⟩] ⟨"crate::rooms", bareDeclaration "list" "GET"⟩
        (.method "GET" "") ∧
      discover roomsSources.asRead = discover roomsSources := by
  have hloaded : roomsSources.IsLoaded := by
    intro unit hmem
    rw [List.mem_singleton.mp hmem]
    exact ⟨[.module [] .everywhere "rooms" 1 (some [bareFunction "list" "get"])], rfl⟩
  obtain ⟨hanswers, hread⟩ := discover_answers hloaded
  refine ⟨hloaded, ?_, hread⟩
  exact hanswers _ (List.mem_singleton_self _) _ _ (.inside .here) _ (List.mem_singleton_self _)
    nofun

def textAttribute (name text : String) : Source.Attribute :=
  ⟨false, false, [name], .list [.literal text]⟩

/-- The declaration of `#[route_group("/a")] #[get("/x")] pub mod a {}`. -/
def shadowedDeclaration : Declaration :=
  ⟨"a", .module, .everywhere, [.group "/a", .method "GET" "/x"], [], none, true,
    ⟨"routes.rs", 1⟩⟩

/-- A module that carries a method marker besides its group marker. -/
def shadowedSources : SourceSet :=
  ⟨[⟨"crate::routes", "routes.rs", [shadowedDeclaration]⟩], []⟩

theorem isLoaded_shadowed : shadowedSources.IsLoaded := by
  intro unit hmem
  rw [List.mem_singleton.mp hmem]
  exact ⟨[.module [textAttribute "route_group" "\"/a\"", textAttribute "get" "\"/x\""] .everywhere
    "a" 1 (some [])], rfl⟩

/-- Nothing is discovered, reported or logged for the method marker behind the group marker. -/
theorem not_answered_shadowed :
    shadowedSources.IsLoaded ∧
      LiesIn "crate::routes" [shadowedDeclaration] [] ⟨"crate::routes", shadowedDeclaration⟩ ∧
      .method "GET" "/x" ∈ shadowedDeclaration.markers ∧
      ¬ Answered (.of ⟨[], (discover shadowedSources).1⟩ (discover shadowedSources).2) "" []
        ⟨"crate::routes", shadowedDeclaration⟩ (.method "GET" "/x") := by
  refine ⟨isLoaded_shadowed, .here, by decide, fun hanswered => ?_⟩
  have hdiagnostics : (discover shadowedSources).2.diagnostics = [] := rfl
  have hevents : (discover shadowedSources).2.events = [] := rfl
  have hhandlers : allHandlersOf (discover shadowedSources).1 = [] := rfl
  cases hanswered with
  | handler hmem =>
      rw [Findings.of, hhandlers] at hmem
      cases hmem
  | reported habout hreported =>
      rw [Findings.of, hdiagnostics] at hreported
      rcases hreported with ⟨reason, hmem⟩ | ⟨what, hmem⟩ <;> cases hmem
  | logged habout hlogged =>
      rw [Findings.of, hevents] at hlogged
      rcases hlogged with hmem | hmem <;> cases hmem

end Standard

end MarkedRoutes
