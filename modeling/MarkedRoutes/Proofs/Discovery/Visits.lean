import MarkedRoutes.Proofs.Analysis.Loading
import MarkedRoutes.Proofs.Analysis.SourceOrder

/-!
# Items that discovery comes to

Discovery comes to the items at the top level of each source, and to those directly inside of
each group that it discovers.  This is told by the items of the texts themselves.  The groups
that are discovered are just those that it finds on its way, and what it reports there stays
reported.
-/

namespace MarkedRoutes

open MarkedRoutes.Source

/-! ### Discovery in parts -/

section Parts

variable (survey : Survey) (modulePath base : String)

theorem discoverMembers_append (first second : List Declaration) :
    discoverMembers survey modulePath base (first ++ second) =
      let before := discoverMembers survey modulePath base first
      let after := discoverMembers before.2 modulePath base second
      (⟨before.1.handlers ++ after.1.handlers, before.1.groups ++ after.1.groups⟩, after.2) := by
  induction first generalizing survey with
  | nil => simp [discoverMembers]
  | cons child first ih =>
      rw [List.cons_append, discoverMembers, discoverMembers]
      split_ifs
      · simp [ih]
      · simp [ih]
      · simp [ih]

theorem discoverItems_append (first second : List Declaration) :
    discoverItems survey modulePath (first ++ second) =
      let before := discoverItems survey modulePath first
      let after := discoverItems before.2 modulePath second
      (before.1 ++ after.1, after.2) := by
  induction first generalizing survey with
  | nil => simp [discoverItems]
  | cons item first ih =>
      rw [List.cons_append, discoverItems, discoverItems]
      split_ifs
      · simp [ih]
      · simp [ih]

theorem discoverUnits_append (first second : List SourceUnit) :
    discoverUnits survey (first ++ second) =
      let before := discoverUnits survey first
      let after := discoverUnits before.2 second
      (before.1 ++ after.1, after.2) := by
  induction first generalizing survey with
  | nil => simp [discoverUnits]
  | cons unit first ih => simp [discoverUnits, ih]

/-- The part of discovery that a group-marked declaration is. -/
theorem discoverMembers_group {declaration : Declaration} (hgroup : declaration.isGroup = true)
    (rest : List Declaration) :
    discoverMembers survey modulePath base (declaration :: rest) =
      let found := discoverGroup survey modulePath base declaration
      let after := discoverMembers found.2 modulePath base rest
      (⟨after.1.handlers, found.1.toList ++ after.1.groups⟩, after.2) := by
  rw [discoverMembers, if_pos hgroup]

theorem discoverItems_group {declaration : Declaration} (hgroup : declaration.isGroup = true)
    (rest : List Declaration) :
    discoverItems survey modulePath (declaration :: rest) =
      let found := discoverGroup survey modulePath "" declaration
      let after := discoverItems found.2 modulePath rest
      (found.1.toList ++ after.1, after.2) := by
  rw [discoverItems, if_pos hgroup]

/-- A group among members is found at a group-marked declaration. -/
theorem exists_of_mem_discoverMembers {declarations : List Declaration} {group : DiscoveredGroup}
    (hmem : group ∈ (discoverMembers survey modulePath base declarations).1.groups) :
    ∃ first declaration rest, declarations = first ++ declaration :: rest ∧
      declaration.isGroup = true ∧
      (discoverGroup (discoverMembers survey modulePath base first).2 modulePath base
        declaration).1 = some group := by
  induction declarations generalizing survey with
  | nil => cases hmem
  | cons child declarations ih =>
      rw [← List.singleton_append, discoverMembers_append] at hmem
      rcases List.mem_append.mp hmem with hmem | hmem
      · rw [discoverMembers] at hmem
        split_ifs at hmem with hgroup
        · refine ⟨[], child, declarations, rfl, hgroup, ?_⟩
          simpa [discoverMembers] using hmem
        · simp [discoverMembers] at hmem
        · simp [discoverMembers] at hmem
      · obtain ⟨first, declaration, rest, rfl, hgroup, hfound⟩ := ih _ hmem
        refine ⟨child :: first, declaration, rest, rfl, hgroup, ?_⟩
        rw [← List.singleton_append, discoverMembers_append]
        exact hfound

theorem exists_of_mem_discoverItems {declarations : List Declaration} {group : DiscoveredGroup}
    (hmem : group ∈ (discoverItems survey modulePath declarations).1) :
    ∃ first declaration rest, declarations = first ++ declaration :: rest ∧
      declaration.isGroup = true ∧
      (discoverGroup (discoverItems survey modulePath first).2 modulePath "" declaration).1 =
        some group := by
  induction declarations generalizing survey with
  | nil => cases hmem
  | cons item declarations ih =>
      rw [← List.singleton_append, discoverItems_append] at hmem
      rcases List.mem_append.mp hmem with hmem | hmem
      · rw [discoverItems] at hmem
        split_ifs at hmem with hgroup
        · refine ⟨[], item, declarations, rfl, hgroup, ?_⟩
          simpa [discoverItems] using hmem
        · simp [discoverItems] at hmem
      · obtain ⟨first, declaration, rest, rfl, hgroup, hfound⟩ := ih _ hmem
        refine ⟨item :: first, declaration, rest, rfl, hgroup, ?_⟩
        rw [← List.singleton_append, discoverItems_append]
        exact hfound

theorem exists_of_mem_discoverUnits {units : List SourceUnit} {group : DiscoveredGroup}
    (hmem : group ∈ (discoverUnits survey units).1) :
    ∃ first unit rest, units = first ++ unit :: rest ∧
      group ∈ (discoverItems (discoverUnits survey first).2 unit.modulePath unit.items).1 := by
  induction units generalizing survey with
  | nil => cases hmem
  | cons unit units ih =>
      rw [discoverUnits] at hmem
      rcases List.mem_append.mp hmem with hmem | hmem
      · exact ⟨[], unit, units, rfl, hmem⟩
      · obtain ⟨first, other, rest, rfl, hfound⟩ := ih _ hmem
        exact ⟨unit :: first, other, rest, rfl, hfound⟩

end Parts

theorem declarationsOfItems_eq_filterMap [SourceParser] (file : String) (items : List Item) :
    declarationsOfItems file items = items.filterMap (declarationOfItem? file) := by
  induction items with
  | nil => rfl
  | cons item items ih =>
      rw [declarationsOfItems, List.filterMap_cons, ih]
      cases declarationOfItem? file item <;> rfl

/-- What is declared below an item is its content. -/
theorem children_of_declarationOfItem? [SourceParser] {file : String} {item : Item}
    {declaration : Declaration} (hdeclared : declarationOfItem? file item = some declaration) :
    declaration.children = declarationsOfItems file item.content := by
  cases item with
  | module attributes visibility name line content =>
      rw [declarationOfItem?.eq_def] at hdeclared
      cases hdeclared
      cases content <;> rfl
  | other attributes => cases hdeclared
  | _ =>
      cases hdeclared
      rfl

/-! ### Entering groups -/

/-- The survey with which discovery goes through the content of a group. -/
def Survey.entered (survey : Survey) (declaration : Declaration) (modulePath : String) : Survey :=
  (survey.inside modulePath).requireVisible declaration .group

/-- What discovery finds in the content of a group. -/
def membersOf (survey : Survey) (declaration : Declaration) (group : DiscoveredGroup) :
    Members × Survey :=
  discoverMembers (survey.entered declaration group.modulePath) group.modulePath group.base
    declaration.children

/-- A declaration that is found to be a group has the groups inside that are found there. -/
theorem discoverGroup_of_some {survey : Survey} {parentModule parentBase : String}
    {declaration : Declaration} {group : DiscoveredGroup}
    (hfound : (discoverGroup survey parentModule parentBase declaration).1 = some group) :
    group.groups = (membersOf survey declaration group).1.groups ∧
      (discoverGroup survey parentModule parentBase declaration).2 =
        (membersOf survey declaration group).2 := by
  obtain ⟨name, kind, visibility, markers, children, signature, hasBody, location⟩ := declaration
  rw [discoverGroup] at hfound ⊢
  dsimp only at hfound ⊢
  split_ifs at hfound ⊢
  cases hfound
  exact ⟨rfl, rfl⟩

/-! ### Visits -/

/-- Discovery on its way: the module and the base path around some items, what was surveyed
before, and the item that it comes to among these. -/
structure Visit where
  file : String
  modulePath : String
  base : String
  survey : Survey
  earlier : List Item
  item : Item
  later : List Item

/-- Discovery finds a group at an item that it comes to. -/
structure Visit.Finds [SourceParser] (visit : Visit) (declaration : Declaration)
    (group : DiscoveredGroup) : Prop where
  declared : declarationOfItem? visit.file visit.item = some declaration
  isGroup : declaration.isGroup = true
  found : (discoverGroup visit.survey visit.modulePath visit.base declaration).1 = some group

/-- In the discovery of some texts, an item stands at the top level of a text, or directly inside
of a group that is found. -/
inductive Visit.IsIn [SourceParser] (texts : List SourceText) : Visit → Prop
  | top {before after : List SourceText} {text : SourceText} {earlier later : List Item}
      {item : Item} (htexts : texts = before ++ text :: after)
      (hitems : SourceParser.file text.content = .ok (earlier ++ item :: later)) :
      IsIn texts
        ⟨text.file, text.modulePath, "",
          (discoverItems (discover (.ofTexts before)).2 text.modulePath
            (declarationsOfItems text.file earlier)).2,
          earlier, item, later⟩
  | inside {visit : Visit} {declaration : Declaration} {group : DiscoveredGroup}
      {earlier later : List Item} {item : Item} (hvisit : IsIn texts visit)
      (hfinds : visit.Finds declaration group)
      (hcontent : visit.item.content = earlier ++ item :: later) :
      IsIn texts
        ⟨visit.file, group.modulePath, group.base,
          (discoverMembers (visit.survey.entered declaration group.modulePath) group.modulePath
            group.base (declarationsOfItems visit.file earlier)).2,
          earlier, item, later⟩

/-! ### What is found on the way -/

section Found

variable {texts : List SourceText} {visit : Visit} {declaration : Declaration}

theorem load_eq_ok [SourceParser] {text : SourceText} {items : List Item}
    (hload : text.load.isOk = true) (hitems : SourceParser.file text.content = .ok items) :
    text.load = .ok ⟨⟨text.modulePath, text.file, declarationsOfItems text.file items⟩,
      convertersOfItems text.file text.modulePath items⟩ := by
  rw [SourceText.load, loadSource, hitems] at hload ⊢
  dsimp only at hload ⊢
  rw [loadItems] at hload ⊢
  split at hload
  · rfl
  · cases hload

/-- The units of texts around one of them that loads. -/
theorem units_ofTexts [SourceParser] {before after : List SourceText} {text : SourceText}
    {items : List Item}
    (hload : text.load.isOk = true) (hitems : SourceParser.file text.content = .ok items) :
    (SourceSet.ofTexts (before ++ text :: after)).units =
      (SourceSet.ofTexts before).units ++
        ⟨text.modulePath, text.file, declarationsOfItems text.file items⟩ ::
          (SourceSet.ofTexts after).units := by
  simp [SourceSet.ofTexts, loadedSources, load_eq_ok hload hitems, Except.toOption]

/-- The declarations of items around one of them that loads. -/
theorem declarationsOfItems_around [SourceParser] {file : String} {item : Item}
    (hdeclared : declarationOfItem? file item = some declaration) (earlier later : List Item) :
    declarationsOfItems file (earlier ++ item :: later) =
      declarationsOfItems file earlier ++ declaration :: declarationsOfItems file later := by
  simp [declarationsOfItems_eq_filterMap, hdeclared]

/-- A group among others is there with all groups inside it. -/
theorem allGroups_subset_allGroupsOf {groups : List DiscoveredGroup} {group : DiscoveredGroup}
    (hmem : group ∈ groups) : group.allGroups ⊆ allGroupsOf groups := by
  intro inner hinner
  rw [allGroupsOf_eq_flatMap]
  exact List.mem_flatMap.mpr ⟨group, hmem, hinner⟩

theorem allGroupsOf_groups_subset (group : DiscoveredGroup) :
    allGroupsOf group.groups ⊆ group.allGroups := by
  obtain ⟨name, modulePath, base, handlers, groups, location⟩ := group
  rw [DiscoveredGroup.allGroups]
  exact List.subset_cons_self _ _

theorem within_discoverMembers (survey : Survey) (modulePath base : String)
    (hgroup : declaration.isGroup = true) (first rest : List Declaration) :
    let step := discoverGroup (discoverMembers survey modulePath base first).2 modulePath base
      declaration
    let all := discoverMembers survey modulePath base (first ++ declaration :: rest)
    step.2.Grows all.2 ∧ step.1.toList ⊆ all.1.groups := by
  rw [discoverMembers_append]
  dsimp only
  rw [discoverMembers_group _ _ _ hgroup]
  exact ⟨grows_discoverMembers rest,
    List.subset_append_of_subset_right _ (List.subset_append_left _ _)⟩

theorem within_discoverItems (survey : Survey) (modulePath : String)
    (hgroup : declaration.isGroup = true) (first rest : List Declaration) :
    let step := discoverGroup (discoverItems survey modulePath first).2 modulePath "" declaration
    let all := discoverItems survey modulePath (first ++ declaration :: rest)
    step.2.Grows all.2 ∧ step.1.toList ⊆ all.1 := by
  rw [discoverItems_append]
  dsimp only
  rw [discoverItems_group _ _ hgroup]
  exact ⟨grows_discoverItems,
    List.subset_append_of_subset_right _ (List.subset_append_left _ _)⟩

theorem within_discoverUnits (survey : Survey) (unit : SourceUnit) (first rest : List SourceUnit) :
    let step := discoverItems (discoverUnits survey first).2 unit.modulePath unit.items
    let all := discoverUnits survey (first ++ unit :: rest)
    step.2.Grows all.2 ∧ step.1 ⊆ all.1 := by
  rw [discoverUnits_append]
  dsimp only
  rw [discoverUnits]
  exact ⟨grows_discoverUnits,
    List.subset_append_of_subset_right _ (List.subset_append_left _ _)⟩

/-- What discovery finds at an item that it comes to is found in the end, and what it has
reported then stays reported. -/
theorem Visit.IsIn.within [SourceParser] (hvisit : visit.IsIn texts)
    (hload : ∀ text ∈ texts, text.load.isOk = true)
    (hdeclared : declarationOfItem? visit.file visit.item = some declaration)
    (hgroup : declaration.isGroup = true) :
    (discoverGroup visit.survey visit.modulePath visit.base declaration).2.Grows
        (discover (.ofTexts texts)).2 ∧
      ∀ group, (discoverGroup visit.survey visit.modulePath visit.base declaration).1 =
        some group → group.allGroups ⊆ allGroupsOf (discover (.ofTexts texts)).1 := by
  induction hvisit generalizing declaration with
  | @top before after text earlier later item htexts hitems =>
      have htext : text.load.isOk = true := hload text (by simp [htexts])
      have hunits := within_discoverUnits .empty
        ⟨text.modulePath, text.file, declarationsOfItems text.file (earlier ++ item :: later)⟩
        (SourceSet.ofTexts before).units (SourceSet.ofTexts after).units
      rw [← units_ofTexts htext hitems, ← htexts] at hunits
      have hstep := within_discoverItems (discover (.ofTexts before)).2 text.modulePath hgroup
        (declarationsOfItems text.file earlier) (declarationsOfItems text.file later)
      rw [← declarationsOfItems_around hdeclared] at hstep
      refine ⟨hstep.1.trans hunits.1, fun group hfound => allGroups_subset_allGroupsOf ?_⟩
      exact hunits.2 (hstep.2 (Option.mem_toList.mpr hfound))
  | @inside visit outer group earlier later item hvisit hfinds hcontent ih =>
      obtain ⟨hgrows, hsubset⟩ := ih hfinds.declared hfinds.isGroup
      obtain ⟨hgroups, hsurvey⟩ := discoverGroup_of_some hfinds.found
      have hstep := within_discoverMembers (visit.survey.entered outer group.modulePath)
        group.modulePath group.base hgroup (declarationsOfItems visit.file earlier)
        (declarationsOfItems visit.file later)
      have hmembers : membersOf visit.survey outer group =
          discoverMembers (visit.survey.entered outer group.modulePath) group.modulePath
            group.base (declarationsOfItems visit.file earlier ++
              declaration :: declarationsOfItems visit.file later) := by
        rw [membersOf, children_of_declarationOfItem? hfinds.declared, hcontent,
          declarationsOfItems_around hdeclared]
      rw [← hmembers] at hstep
      rw [hsurvey] at hgrows
      refine ⟨hstep.1.trans hgrows, fun inner hinner => ?_⟩
      have hmem : inner ∈ group.groups := hgroups ▸ hstep.2 (Option.mem_toList.mpr hinner)
      exact List.Subset.trans (allGroups_subset_allGroupsOf hmem)
        (List.Subset.trans (allGroupsOf_groups_subset group) (hsubset group hfinds.found))

/-- The items whose declarations are around a declaration. -/
theorem exists_items_around [SourceParser] {file : String} {items : List Item}
    {first rest : List Declaration}
    (hsplit : declarationsOfItems file items = first ++ declaration :: rest) :
    ∃ earlier item later, items = earlier ++ item :: later ∧
      declarationsOfItems file earlier = first ∧
      declarationOfItem? file item = some declaration := by
  rw [declarationsOfItems_eq_filterMap] at hsplit
  obtain ⟨earlier, behind, rfl, hearlier, hbehind⟩ := List.filterMap_eq_append_iff.mp hsplit
  obtain ⟨skipped, item, later, rfl, hskipped, hitem, -⟩ := List.filterMap_eq_cons_iff.mp hbehind
  refine ⟨earlier ++ skipped, item, later, by simp, ?_, hitem⟩
  rw [declarationsOfItems_eq_filterMap, List.filterMap_append, hearlier,
    List.filterMap_eq_nil_iff.mpr hskipped, List.append_nil]

/-- A group directly inside a group that is found on the way is found on the way. -/
theorem exists_finds_of_mem_groups [SourceParser] {inner group : DiscoveredGroup}
    (hvisit : visit.IsIn texts) (hfinds : visit.Finds declaration group)
    (hmem : inner ∈ group.groups) :
    ∃ visit declaration, Visit.IsIn texts visit ∧ visit.Finds declaration inner := by
  rw [(discoverGroup_of_some hfinds.found).1] at hmem
  obtain ⟨first, found, rest, hchildren, hgroup, hfound⟩ :=
    exists_of_mem_discoverMembers _ _ _ hmem
  rw [children_of_declarationOfItem? hfinds.declared] at hchildren
  obtain ⟨earlier, item, later, hcontent, rfl, hdeclared⟩ := exists_items_around hchildren
  exact ⟨_, found, .inside hvisit hfinds hcontent, hdeclared, hgroup, hfound⟩

mutual

/-- The groups inside a group that is found on the way are found on the way. -/
theorem exists_finds_of_mem_allGroups [SourceParser] {inner : DiscoveredGroup} :
    ∀ {group : DiscoveredGroup} {visit : Visit} {declaration : Declaration},
      visit.IsIn texts → visit.Finds declaration group → inner ∈ group.allGroups →
      ∃ visit declaration, Visit.IsIn texts visit ∧ visit.Finds declaration inner
  | ⟨name, modulePath, base, handlers, groups, location⟩, visit, declaration => by
      intro hvisit hfinds hmem
      rw [DiscoveredGroup.allGroups] at hmem
      rcases List.mem_cons.mp hmem with rfl | hmem
      · exact ⟨visit, declaration, hvisit, hfinds⟩
      · exact exists_finds_of_mem_allGroupsOf hvisit hfinds (List.Subset.refl groups) hmem

theorem exists_finds_of_mem_allGroupsOf [SourceParser] {inner group : DiscoveredGroup}
    {visit : Visit} {declaration : Declaration} (hvisit : visit.IsIn texts)
    (hfinds : visit.Finds declaration group) :
    ∀ {groups : List DiscoveredGroup}, groups ⊆ group.groups → inner ∈ allGroupsOf groups →
      ∃ visit declaration, Visit.IsIn texts visit ∧ visit.Finds declaration inner
  | [] => fun _ hmem => nomatch hmem
  | first :: rest => by
      intro hsubset hmem
      rw [allGroupsOf] at hmem
      rcases List.mem_append.mp hmem with hmem | hmem
      · obtain ⟨found, nested, hfound, hnested⟩ :=
          exists_finds_of_mem_groups hvisit hfinds (hsubset List.mem_cons_self)
        exact exists_finds_of_mem_allGroups hfound hnested hmem
      · exact exists_finds_of_mem_allGroupsOf hvisit hfinds
          (List.Subset.trans (List.subset_cons_self _ _) hsubset) hmem

end

theorem units_ofTexts_eq_filterMap [SourceParser] (texts : List SourceText) :
    (SourceSet.ofTexts texts).units =
      texts.filterMap fun text => text.load.toOption.map LoadedSource.unit := by
  rw [SourceSet.ofTexts, loadedSources, List.map_filterMap]

/-- The texts whose units are around a unit. -/
theorem exists_text_around [SourceParser] {first rest : List SourceUnit} {unit : SourceUnit}
    (hsplit : (SourceSet.ofTexts texts).units = first ++ unit :: rest) :
    ∃ before text after items, texts = before ++ text :: after ∧
      (SourceSet.ofTexts before).units = first ∧ SourceParser.file text.content = .ok items ∧
      unit = ⟨text.modulePath, text.file, declarationsOfItems text.file items⟩ := by
  rw [units_ofTexts_eq_filterMap] at hsplit
  obtain ⟨before, behind, rfl, hbefore, hbehind⟩ := List.filterMap_eq_append_iff.mp hsplit
  obtain ⟨skipped, text, after, rfl, hskipped, htext, -⟩ :=
    List.filterMap_eq_cons_iff.mp hbehind
  obtain ⟨loaded, hloaded, rfl⟩ := Option.map_eq_some_iff.mp htext
  have hload : loadSource text.modulePath text.file text.content = .ok loaded :=
    eq_ok_of_toOption hloaded
  have hok : text.load.isOk = true := isOk_eq_true_iff.mpr ⟨loaded, hload⟩
  cases hitems : SourceParser.file text.content with
  | error fault =>
      rw [loadSource, hitems] at hload
      cases hload
  | ok items =>
      have hunit := load_eq_ok hok hitems
      rw [SourceText.load, hload] at hunit
      cases hunit
      refine ⟨before ++ skipped, text, after, items, by simp, ?_, hitems, rfl⟩
      rw [units_ofTexts_eq_filterMap, List.filterMap_append, hbefore,
        List.filterMap_eq_nil_iff.mpr hskipped, List.append_nil]

theorem mem_allGroups_self (group : DiscoveredGroup) : group ∈ group.allGroups := by
  obtain ⟨name, modulePath, base, handlers, groups, location⟩ := group
  rw [DiscoveredGroup.allGroups]
  exact List.mem_cons_self

/-- The groups that discovery ends with are those that it finds at the items that it comes to. -/
theorem mem_allGroupsOf_discover_iff [SourceParser] (hload : ∀ text ∈ texts, text.load.isOk = true)
    {group : DiscoveredGroup} :
    group ∈ allGroupsOf (discover (.ofTexts texts)).1 ↔
      ∃ visit declaration, Visit.IsIn texts visit ∧ visit.Finds declaration group := by
  constructor
  · intro hmem
    rw [allGroupsOf_eq_flatMap] at hmem
    obtain ⟨outer, houter, hmem⟩ := List.mem_flatMap.mp hmem
    obtain ⟨first, unit, rest, hunits, hfound⟩ := exists_of_mem_discoverUnits _ houter
    obtain ⟨before, text, after, items, htexts, rfl, hitems, rfl⟩ := exists_text_around hunits
    obtain ⟨declarations, declaration, others, hdeclarations, hgroup, hfound⟩ :=
      exists_of_mem_discoverItems _ _ hfound
    obtain ⟨earlier, item, later, rfl, rfl, hdeclared⟩ := exists_items_around hdeclarations
    exact exists_finds_of_mem_allGroups (.top htexts hitems) ⟨hdeclared, hgroup, hfound⟩ hmem
  · rintro ⟨visit, declaration, hvisit, hfinds⟩
    obtain ⟨-, hsubset⟩ := hvisit.within hload hfinds.declared hfinds.isGroup
    exact hsubset group hfinds.found (mem_allGroups_self group)

end Found

end MarkedRoutes
