import MarkedRoutes.Proofs.Discovery.Exactness
import MarkedRoutes.Proofs.Discovery.Markers

/-!
# Discovery of independent sources

Sources are discovered one after another, and all that one leaves behind for the next are the
module paths that it took.  So a source that is discovered without reports on its own is
discovered in the same way behind others, as long as they took none of its module paths.
Nothing in this depends on the order of the sources.
-/

namespace MarkedRoutes

/-! ### Discovery behind other sources -/

theorem Survey.requireVisible_of_ne {survey : Survey} {declaration : Declaration}
    {what : Unreachable} (hvisible : declaration.visibility ≠ .inherited) :
    survey.requireVisible declaration what = survey := by
  rw [requireVisible, if_neg hvisible]

theorem Survey.Grows.clean {before after : Survey} (hgrows : before.Grows after)
    (hclean : after.diagnostics = []) : before.diagnostics = [] :=
  List.eq_nil_of_subset_nil (hclean ▸ hgrows.diagnostics)

/-- From a survey without reports the same is found again, nothing is reported, and nothing but
the listed module paths is taken. -/
structure FoundAgain {α : Type} (other : Survey) (paths : List String) (first again : α × Survey) :
    Prop where
  found_eq : again.1 = first.1
  diagnostics_eq : again.2.diagnostics = []
  seen_subset : again.2.seen ⊆ paths ++ other.seen

/-- Of module paths that are all different and not taken, the later ones are not taken behind
the earlier ones either. -/
theorem notMem_seen_behind {before after : Survey} {first second : List String}
    (hnodup : (first ++ second).Nodup) (hfresh : ∀ path ∈ first ++ second, path ∉ before.seen)
    (hseen : after.seen ⊆ first ++ before.seen) : ∀ path ∈ second, path ∉ after.seen := by
  intro path hpath htaken
  rcases List.mem_append.mp (hseen htaken) with hfirst | hbefore
  · exact (List.nodup_append.mp hnodup).2.2 path hfirst path hpath rfl
  · exact hfresh path (List.mem_append_right _ hpath) hbefore

theorem seen_subset_behind {before between after : Survey} {first second : List String}
    (hfirst : between.seen ⊆ first ++ before.seen) (hsecond : after.seen ⊆ second ++ between.seen) :
    after.seen ⊆ (first ++ second) ++ before.seen := by
  intro path hpath
  rcases List.mem_append.mp (hsecond hpath) with hmem | hmem
  · exact List.mem_append_left _ (List.mem_append_right _ hmem)
  · rcases List.mem_append.mp (hfirst hmem) with hmem | hmem
    · exact List.mem_append_left _ (List.mem_append_left _ hmem)
    · exact List.mem_append_right _ hmem

/-- A declaration is a group that discovery enters without a report of its own. -/
structure IsEntered (seen : List String) (parentModule : String) (declaration : Declaration) :
    Prop where
  isModule : declaration.kind = .module
  isInline : declaration.hasBody = true
  isFresh : childPath parentModule declaration.name ∉ seen
  isVisible : declaration.visibility ≠ .inherited
  isPlain : ¬ hasControl (declaration.groupBase?.getD "") = true

/-- The survey inside a group that is entered. -/
def Survey.inside (survey : Survey) (modulePath : String) : Survey :=
  { survey with seen := modulePath :: survey.seen }

/-- What is found inside a group that is entered, as the group. -/
def groupOfMembers (parentModule parentBase : String) (declaration : Declaration)
    (found : Members × Survey) : Option DiscoveredGroup × Survey :=
  (some ⟨declaration.name, childPath parentModule declaration.name,
    parentBase ++ declaration.groupBase?.getD "", found.1.handlers, found.1.groups,
    declaration.location⟩, found.2)

theorem IsEntered.discoverGroup_eq {survey : Survey} {parentModule : String}
    {declaration : Declaration} (hentered : IsEntered survey.seen parentModule declaration)
    (parentBase : String) :
    discoverGroup survey parentModule parentBase declaration =
      groupOfMembers parentModule parentBase declaration
        (discoverMembers (survey.inside (childPath parentModule declaration.name))
          (childPath parentModule declaration.name)
          (parentBase ++ declaration.groupBase?.getD "") declaration.children) := by
  obtain ⟨name, kind, visibility, markers, children, signature, hasBody, location⟩ := declaration
  obtain ⟨hmodule, hinline, hfresh, hvisible, hplain⟩ := hentered
  dsimp only at hmodule hinline hfresh hvisible
  subst hmodule hinline
  rw [discoverGroup, if_neg (not_not.mpr rfl), if_neg (by decide)]
  dsimp only
  rw [if_neg (by rwa [List.contains_iff_mem]), if_neg hplain,
    Survey.requireVisible_of_ne hvisible]
  rfl

theorem isEntered_of_clean {survey : Survey} {parentModule parentBase : String}
    {declaration : Declaration}
    (hclean : (discoverGroup survey parentModule parentBase declaration).2.diagnostics = []) :
    IsEntered survey.seen parentModule declaration := by
  obtain ⟨name, kind, visibility, markers, children, signature, hasBody, location⟩ := declaration
  rw [discoverGroup] at hclean
  dsimp only at hclean
  split_ifs at hclean with hkind hbody hseen hcontrol
  · exact absurd hclean (Survey.diagnostics_invalid_ne_nil _ _ _)
  · exact absurd hclean (Survey.diagnostics_invalid_ne_nil _ _ _)
  · exact absurd hclean (Survey.diagnostics_invalid_ne_nil _ _ _)
  · exact absurd hclean (Survey.diagnostics_invalid_ne_nil _ _ _)
  · obtain ⟨hvisible, -⟩ :=
      Survey.requireVisible_clean ((grows_discoverMembers children).clean hclean)
    exact ⟨not_not.mp hkind, by simpa using hbody,
      fun hmem => hseen (List.contains_iff_mem.mpr hmem), hvisible, hcontrol⟩

theorem discoverHandler_again {survey other : Survey} {modulePath base : String}
    {declaration : Declaration}
    (hclean : (discoverHandler survey modulePath base declaration).2.diagnostics = [])
    (hother : other.diagnostics = []) :
    FoundAgain other [] (discoverHandler survey modulePath base declaration)
      (discoverHandler other modulePath base declaration) := by
  have hseen : (discoverHandler other modulePath base declaration).2.seen ⊆ [] ++ other.seen := by
    rw [seen_discoverHandler]
    exact List.Subset.refl _
  rw [discoverHandler] at hclean
  split at hclean
  next signature hkind hsignature =>
    split at hclean
    next method path hmethods =>
      dsimp only at hclean
      split_ifs at hclean with hpath
      · exact absurd hclean (Survey.diagnostics_invalid_ne_nil _ _ _)
      · obtain ⟨hvisible, -⟩ := Survey.requireVisible_clean hclean
        refine ⟨?_, ?_, hseen⟩ <;>
          simp only [discoverHandler, hkind, hsignature, hmethods, if_neg hpath,
            Survey.requireVisible_of_ne hvisible, hother]
    next => exact absurd hclean (Survey.diagnostics_invalid_ne_nil _ _ _)
  next => exact absurd hclean (Survey.diagnostics_invalid_ne_nil _ _ _)

mutual

/-- A group that was discovered without reports is discovered again where none of its module
paths is taken. -/
theorem discoverGroup_again {survey other : Survey} {parentModule parentBase : String} :
    ∀ declaration : Declaration,
    (discoverGroup survey parentModule parentBase declaration).2.diagnostics = [] →
    other.diagnostics = [] →
    (∀ path ∈ modulePathsOf (discoverGroup survey parentModule parentBase declaration).1.toList,
      path ∉ other.seen) →
    FoundAgain other
      (modulePathsOf (discoverGroup survey parentModule parentBase declaration).1.toList)
      (discoverGroup survey parentModule parentBase declaration)
      (discoverGroup other parentModule parentBase declaration)
  | ⟨name, kind, visibility, markers, children, signature, hasBody, location⟩ => by
      intro hclean hother hfresh
      have hnodup := (@takes_discoverGroup survey parentModule parentBase
        ⟨name, kind, visibility, markers, children, signature, hasBody, location⟩).nodup
      have hentered := isEntered_of_clean hclean
      rw [hentered.discoverGroup_eq] at hclean hfresh hnodup ⊢
      simp only [groupOfMembers, Option.toList_some, modulePathsOf, DiscoveredGroup.modulePaths,
        List.append_nil] at hclean hfresh hnodup ⊢
      obtain ⟨hown, hinner⟩ := List.forall_mem_cons.mp hfresh
      have hentry : (other.inside (childPath parentModule name)).seen ⊆
          [childPath parentModule name] ++ other.seen := List.Subset.refl _
      have hagain := discoverMembers_again children hclean
        (show (other.inside (childPath parentModule name)).diagnostics = [] from hother)
        (notMem_seen_behind hnodup hfresh hentry)
      have heagain : IsEntered other.seen parentModule
          ⟨name, kind, visibility, markers, children, signature, hasBody, location⟩ :=
        { hentered with isFresh := hown }
      rw [heagain.discoverGroup_eq]
      refine ⟨?_, hagain.diagnostics_eq, ?_⟩
      · rw [groupOfMembers, hagain.found_eq]
      · exact seen_subset_behind hentry hagain.seen_subset

/-- The members of a group that were discovered without reports are discovered again where none
of their module paths is taken. -/
theorem discoverMembers_again {survey other : Survey} {modulePath base : String} :
    ∀ children : List Declaration,
    (discoverMembers survey modulePath base children).2.diagnostics = [] →
    other.diagnostics = [] →
    (∀ path ∈ modulePathsOf (discoverMembers survey modulePath base children).1.groups,
      path ∉ other.seen) →
    FoundAgain other (modulePathsOf (discoverMembers survey modulePath base children).1.groups)
      (discoverMembers survey modulePath base children)
      (discoverMembers other modulePath base children)
  | [] => fun _ hother _ => ⟨rfl, hother, List.Subset.refl _⟩
  | child :: rest => by
      intro hclean hother hfresh
      have hnodup := (@takes_discoverMembers survey modulePath base (child :: rest)).nodup
      rw [discoverMembers] at hclean hfresh hnodup ⊢
      split_ifs at hclean hfresh hnodup ⊢ with hgroup hmethods
      · dsimp only at hclean hfresh hnodup ⊢
        rw [modulePathsOf_append] at hfresh hnodup ⊢
        have hfirst := discoverGroup_again child ((grows_discoverMembers rest).clean hclean) hother
          fun path hmem => hfresh path (List.mem_append_left _ hmem)
        have hrest := discoverMembers_again rest hclean hfirst.diagnostics_eq
          (notMem_seen_behind hnodup hfresh hfirst.seen_subset)
        rw [discoverMembers, if_pos hgroup]
        refine ⟨?_, hrest.diagnostics_eq, seen_subset_behind hfirst.seen_subset hrest.seen_subset⟩
        dsimp only
        rw [hfirst.found_eq, hrest.found_eq]
      · rw [discoverMembers, if_neg hgroup, if_pos hmethods]
        have hrest := @discoverMembers_again _ (other.log (strayEvents modulePath child)) _ _
          rest hclean hother hfresh
        exact ⟨hrest.found_eq, hrest.diagnostics_eq, hrest.seen_subset⟩
      · dsimp only at hclean hfresh hnodup ⊢
        have hfirst := discoverHandler_again ((grows_discoverMembers rest).clean hclean) hother
        have hrest := discoverMembers_again rest hclean hfirst.diagnostics_eq
          (notMem_seen_behind hnodup hfresh hfirst.seen_subset)
        rw [discoverMembers, if_neg hgroup, if_neg hmethods]
        refine ⟨?_, hrest.diagnostics_eq, seen_subset_behind hfirst.seen_subset hrest.seen_subset⟩
        dsimp only
        rw [hfirst.found_eq, hrest.found_eq]

end

theorem discoverItems_again {survey other : Survey} {modulePath : String}
    {items : List Declaration}
    (hclean : (discoverItems survey modulePath items).2.diagnostics = [])
    (hother : other.diagnostics = [])
    (hfresh : ∀ path ∈ modulePathsOf (discoverItems survey modulePath items).1,
      path ∉ other.seen) :
    FoundAgain other (modulePathsOf (discoverItems survey modulePath items).1)
      (discoverItems survey modulePath items) (discoverItems other modulePath items) := by
  induction items generalizing survey other with
  | nil => exact ⟨rfl, hother, List.Subset.refl _⟩
  | cons item items ih =>
      have hnodup := (@takes_discoverItems survey modulePath (item :: items)).nodup
      rw [discoverItems] at hclean hfresh hnodup ⊢
      split_ifs at hclean hfresh hnodup ⊢ with hgroup
      · dsimp only at hclean hfresh hnodup ⊢
        rw [modulePathsOf_append] at hfresh hnodup ⊢
        have hfirst := discoverGroup_again item (grows_discoverItems.clean hclean) hother
          fun path hmem => hfresh path (List.mem_append_left _ hmem)
        have hrest := ih hclean hfirst.diagnostics_eq
          (notMem_seen_behind hnodup hfresh hfirst.seen_subset)
        rw [discoverItems, if_pos hgroup]
        refine ⟨?_, hrest.diagnostics_eq, seen_subset_behind hfirst.seen_subset hrest.seen_subset⟩
        dsimp only
        rw [hfirst.found_eq, hrest.found_eq]
      · rw [discoverItems, if_neg hgroup]
        have hrest := @ih _ (other.log (strayEvents modulePath item)) hclean hother hfresh
        exact ⟨hrest.found_eq, hrest.diagnostics_eq, hrest.seen_subset⟩

/-! ### Units on their own -/

namespace SourceUnit

def discovered (unit : SourceUnit) : List DiscoveredGroup × Survey :=
  discoverItems .empty unit.modulePath unit.items

/-- The module paths of the groups of a unit, at every depth. -/
def groupPaths (unit : SourceUnit) : List String := modulePathsOf unit.discovered.1

end SourceUnit

theorem modulePathsOf_flatMap (units : List SourceUnit) :
    modulePathsOf (units.flatMap fun unit => unit.discovered.1) =
      units.flatMap SourceUnit.groupPaths := by
  induction units with
  | nil => rfl
  | cons unit units ih =>
      rw [List.flatMap_cons, modulePathsOf_append, ih, List.flatMap_cons]
      rfl

/-- Units that are discovered without reports are so on their own, and with the same groups. -/
theorem discovered_of_clean {survey : Survey} {units : List SourceUnit}
    (hclean : (discoverUnits survey units).2.diagnostics = []) :
    (∀ unit ∈ units, unit.discovered.2.diagnostics = []) ∧
      (discoverUnits survey units).1 = units.flatMap fun unit => unit.discovered.1 := by
  induction units generalizing survey with
  | nil => exact ⟨List.forall_mem_nil _, rfl⟩
  | cons unit units ih =>
      rw [discoverUnits] at hclean ⊢
      obtain ⟨hothers, hfound⟩ := ih hclean
      have halone : FoundAgain .empty _ _ unit.discovered :=
        discoverItems_again (grows_discoverUnits.clean hclean) rfl
          fun _ _ htaken => List.not_mem_nil htaken
      refine ⟨List.forall_mem_cons.mpr ⟨halone.diagnostics_eq, hothers⟩, ?_⟩
      dsimp only
      rw [hfound, List.flatMap_cons, halone.found_eq]

/-- Units that are discovered without reports on their own are so behind each other, when no
module path is taken twice. -/
theorem discoverUnits_of_discovered {survey : Survey} {units : List SourceUnit}
    (hsurvey : survey.diagnostics = [])
    (halone : ∀ unit ∈ units, unit.discovered.2.diagnostics = [])
    (hnodup : (units.flatMap SourceUnit.groupPaths).Nodup)
    (hfresh : ∀ path ∈ units.flatMap SourceUnit.groupPaths, path ∉ survey.seen) :
    (discoverUnits survey units).2.diagnostics = [] := by
  induction units generalizing survey with
  | nil => exact hsurvey
  | cons unit units ih =>
      obtain ⟨hunit, hothers⟩ := List.forall_mem_cons.mp halone
      rw [List.flatMap_cons] at hnodup hfresh
      have hfirst := discoverItems_again hunit hsurvey
        fun path hmem => hfresh path (List.mem_append_left _ hmem)
      rw [discoverUnits]
      exact ih hfirst.diagnostics_eq hothers (List.nodup_append.mp hnodup).2.1
        (notMem_seen_behind hnodup hfresh hfirst.seen_subset)

/-- Units are discovered without reports exactly when each of them is on its own and no module
path is taken twice. -/
theorem discoverUnits_clean_iff {units : List SourceUnit} :
    (discoverUnits .empty units).2.diagnostics = [] ↔
      (∀ unit ∈ units, unit.discovered.2.diagnostics = []) ∧
        (units.flatMap SourceUnit.groupPaths).Nodup := by
  constructor
  · intro hclean
    obtain ⟨halone, hfound⟩ := discovered_of_clean hclean
    refine ⟨halone, ?_⟩
    rw [← modulePathsOf_flatMap, ← hfound]
    exact takes_discoverUnits.nodup
  · rintro ⟨halone, hnodup⟩
    exact discoverUnits_of_discovered rfl halone hnodup fun _ _ htaken => List.not_mem_nil htaken

/-- The order of units makes no difference to whether they are discovered without reports. -/
theorem discoverUnits_clean_of_perm {units others : List SourceUnit} (hperm : units.Perm others)
    (hclean : (discoverUnits .empty units).2.diagnostics = []) :
    (discoverUnits .empty others).2.diagnostics = [] := by
  obtain ⟨halone, hnodup⟩ := discoverUnits_clean_iff.mp hclean
  exact discoverUnits_clean_iff.mpr
    ⟨fun unit hunit => halone unit (hperm.mem_iff.mpr hunit),
      (hperm.flatMap_right SourceUnit.groupPaths).nodup_iff.mp hnodup⟩

end MarkedRoutes
