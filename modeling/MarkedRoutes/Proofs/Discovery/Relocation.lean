import MarkedRoutes.Proofs.Discovery.Independence
import MarkedRoutes.Proofs.Resolution.MountedPaths

/-!
# Discovery under a mount

What is discovered in a source depends on the path where it is mounted only in that every module
and handler path begins with it.  What is reported keeps its kinds and locations.  Every
handler that is discovered is a function in the modules that its group stands in.
-/

namespace MarkedRoutes

open MarkedRoutes.Source

/-! ### Moving what is discovered -/

/-- What a report is compared by: its kind and its location. -/
def Diagnostic.place (diagnostic : Diagnostic) : DiagnosticKind × Location :=
  (diagnostic.kind, diagnostic.location)

def DiscoveredHandler.under (mount : String) (handler : DiscoveredHandler) : DiscoveredHandler :=
  { handler with path := mount ++ handler.path }

mutual

/-- A group below a mount, with everything in it. -/
def DiscoveredGroup.under (mount : String) : DiscoveredGroup → DiscoveredGroup
  | ⟨name, modulePath, base, handlers, groups, location⟩ =>
    ⟨name, mount ++ modulePath, base, handlers.map (DiscoveredHandler.under mount),
      discoveredUnder mount groups, location⟩

def discoveredUnder (mount : String) : List DiscoveredGroup → List DiscoveredGroup
  | [] => []
  | first :: rest => first.under mount :: discoveredUnder mount rest

end

/-- What discovery finds inside a group, below a mount. -/
def Members.under (mount : String) (members : Members) : Members :=
  ⟨members.handlers.map (DiscoveredHandler.under mount), discoveredUnder mount members.groups⟩

theorem discoveredUnder_append (mount : String) (first second : List DiscoveredGroup) :
    discoveredUnder mount (first ++ second) =
      discoveredUnder mount first ++ discoveredUnder mount second := by
  induction first with
  | nil => rfl
  | cons group groups ih => rw [List.cons_append, discoveredUnder, ih, discoveredUnder,
      List.cons_append]

theorem discoveredUnder_toList (mount : String) (group : Option DiscoveredGroup) :
    discoveredUnder mount group.toList = (group.map (DiscoveredGroup.under mount)).toList := by
  cases group <;> rfl

theorem map_under_toList (mount : String) (handler : Option DiscoveredHandler) :
    handler.toList.map (DiscoveredHandler.under mount) =
      (handler.map (DiscoveredHandler.under mount)).toList := by
  cases handler <;> rfl

/-- A survey took the module paths below a mount that another took, and has its reports. -/
structure Survey.IsUnder (mount : String) (mounted alone : Survey) : Prop where
  seen_eq : mounted.seen = alone.seen.map (mount ++ ·)
  places_eq : mounted.diagnostics.map Diagnostic.place = alone.diagnostics.map Diagnostic.place

section Survey

variable {mount : String} {mounted alone : Survey}

theorem Survey.IsUnder.log (hunder : mounted.IsUnder mount alone) (events others : List Event) :
    (mounted.log events).IsUnder mount (alone.log others) :=
  ⟨hunder.seen_eq, hunder.places_eq⟩

theorem Survey.IsUnder.invalid (hunder : mounted.IsUnder mount alone) (declaration : Declaration)
    (reason other : InvalidReason) :
    (mounted.invalid declaration reason).IsUnder mount (alone.invalid declaration other) := by
  refine ⟨hunder.seen_eq, ?_⟩
  simp only [Survey.invalid, Survey.report, List.map_append, hunder.places_eq]
  rfl

theorem Survey.IsUnder.requireVisible (hunder : mounted.IsUnder mount alone)
    (declaration : Declaration) (what : Unreachable) :
    (mounted.requireVisible declaration what).IsUnder mount
      (alone.requireVisible declaration what) := by
  rw [Survey.requireVisible, Survey.requireVisible]
  split_ifs
  · refine ⟨hunder.seen_eq, ?_⟩
    simp only [Survey.report, List.map_append, hunder.places_eq]
  · exact hunder

theorem Survey.IsUnder.inside (hunder : mounted.IsUnder mount alone) (path : String) :
    (mounted.inside (mount ++ path)).IsUnder mount (alone.inside path) :=
  ⟨congrArg ((mount ++ path) :: ·) hunder.seen_eq, hunder.places_eq⟩

theorem Survey.IsUnder.contains_eq (hunder : mounted.IsUnder mount alone) (path : String) :
    mounted.seen.contains (mount ++ path) = alone.seen.contains path := by
  rw [Bool.eq_iff_iff, List.contains_iff_mem, List.contains_iff_mem, hunder.seen_eq,
    List.mem_map_of_injective fun _ _ => String.append_right_inj mount |>.mp]

end Survey

/-- The same is found below a mount, and the same is reported. -/
structure FoundUnder {α : Type} (mount : String) (move : α → α) (mounted alone : α × Survey) :
    Prop where
  found_eq : mounted.1 = move alone.1
  survey : mounted.2.IsUnder mount alone.2

/-- The members that are found below a mount make a group below it. -/
theorem FoundUnder.group {mount : String} {mounted alone : Members × Survey}
    (hmembers : FoundUnder mount (Members.under mount) mounted alone)
    (name modulePath base : String) (location : Location) :
    FoundUnder mount (Option.map (DiscoveredGroup.under mount))
      (some ⟨name, mount ++ modulePath, base, mounted.1.handlers, mounted.1.groups, location⟩,
        mounted.2)
      (some ⟨name, modulePath, base, alone.1.handlers, alone.1.groups, location⟩, alone.2) := by
  refine ⟨?_, hmembers.survey⟩
  dsimp only
  rw [hmembers.found_eq]
  rfl

section Discovery

variable {mount : String} {mounted alone : Survey}

theorem discoverHandler_under (hunder : mounted.IsUnder mount alone)
    (modulePath base : String) (declaration : Declaration) :
    FoundUnder mount (Option.map (DiscoveredHandler.under mount))
      (discoverHandler mounted (mount ++ modulePath) base declaration)
      (discoverHandler alone modulePath base declaration) := by
  obtain ⟨name, kind, visibility, markers, children, signature, hasBody, location⟩ := declaration
  cases kind with
  | function =>
      cases signature with
      | none => exact ⟨rfl, hunder.invalid _ _ _⟩
      | some signature =>
          rw [discoverHandler, discoverHandler]
          dsimp only
          split
          · split_ifs
            · exact ⟨rfl, (hunder.requireVisible _ _).invalid _ _ _⟩
            · refine ⟨?_, hunder.requireVisible _ _⟩
              rw [Option.map_some, DiscoveredHandler.under, childPath_append]
          · exact ⟨rfl, hunder.invalid _ _ _⟩
  | _ => exact ⟨rfl, hunder.invalid _ _ _⟩

mutual

theorem discoverGroup_under {mounted alone : Survey} (modulePath base : String) :
    ∀ declaration : Declaration, mounted.IsUnder mount alone →
    FoundUnder mount (Option.map (DiscoveredGroup.under mount))
      (discoverGroup mounted (mount ++ modulePath) base declaration)
      (discoverGroup alone modulePath base declaration)
  | ⟨name, kind, visibility, markers, children, signature, hasBody, location⟩ => by
      intro hunder
      rw [discoverGroup, discoverGroup]
      dsimp only
      rw [childPath_append, hunder.contains_eq]
      split_ifs
      · exact ⟨rfl, hunder.invalid _ _ _⟩
      · exact ⟨rfl, hunder.invalid _ _ _⟩
      · exact ⟨rfl, hunder.invalid _ _ _⟩
      · exact ⟨rfl, ((hunder.inside _).requireVisible _ _).invalid _ _ _⟩
      · exact (discoverMembers_under _ _ children
          ((hunder.inside _).requireVisible _ _)).group _ _ _ _

theorem discoverMembers_under {mounted alone : Survey} (modulePath base : String) :
    ∀ children : List Declaration, mounted.IsUnder mount alone →
    FoundUnder mount (Members.under mount)
      (discoverMembers mounted (mount ++ modulePath) base children)
      (discoverMembers alone modulePath base children)
  | [] => fun hunder => ⟨rfl, hunder⟩
  | child :: rest => by
      intro hunder
      rw [discoverMembers, discoverMembers]
      split_ifs
      · have hfirst := discoverGroup_under modulePath base child hunder
        have hrest := discoverMembers_under modulePath base rest hfirst.survey
        refine ⟨?_, hrest.survey⟩
        dsimp only
        rw [hfirst.found_eq, hrest.found_eq, ← discoveredUnder_toList]
        simp only [Members.under, discoveredUnder_append]
      · exact discoverMembers_under modulePath base rest (hunder.log _ _)
      · have hfirst := discoverHandler_under hunder modulePath base child
        have hrest := discoverMembers_under modulePath base rest hfirst.survey
        refine ⟨?_, hrest.survey⟩
        dsimp only
        rw [hfirst.found_eq, hrest.found_eq, ← map_under_toList]
        simp only [Members.under, List.map_append]

end

/-- What is discovered in a source is what is discovered without the mount, below it. -/
theorem discoverItems_under {items : List Declaration} (hunder : mounted.IsUnder mount alone)
    (modulePath : String) :
    FoundUnder mount (discoveredUnder mount) (discoverItems mounted (mount ++ modulePath) items)
      (discoverItems alone modulePath items) := by
  induction items generalizing mounted alone with
  | nil => exact ⟨rfl, hunder⟩
  | cons item items ih =>
      rw [discoverItems, discoverItems]
      split_ifs
      · have hfirst := discoverGroup_under modulePath "" item hunder
        have hrest := ih hfirst.survey
        refine ⟨?_, hrest.survey⟩
        dsimp only
        rw [hfirst.found_eq, hrest.found_eq, ← discoveredUnder_toList, discoveredUnder_append]
      · exact ih (hunder.log _ _)

end Discovery

/-! ### Where handlers stand -/

mutual

/-- The handlers of a group and of the groups inside it, each with the path of its module. -/
def DiscoveredGroup.placedHandlers : DiscoveredGroup → List (String × DiscoveredHandler)
  | ⟨_, modulePath, _, handlers, groups, _⟩ =>
    handlers.map (fun handler => (modulePath, handler)) ++ placedHandlersOf groups

/-- The handlers of groups, each with the path of its module. -/
def placedHandlersOf : List DiscoveredGroup → List (String × DiscoveredHandler)
  | [] => []
  | first :: rest => first.placedHandlers ++ placedHandlersOf rest

end

theorem placedHandlersOf_append (first second : List DiscoveredGroup) :
    placedHandlersOf (first ++ second) = placedHandlersOf first ++ placedHandlersOf second := by
  induction first with
  | nil => rfl
  | cons group groups ih =>
      rw [List.cons_append, placedHandlersOf, ih, placedHandlersOf, List.append_assoc]

/-- A function of some signature is declared inside modules of some names. -/
inductive DeclaredIn : List Declaration → List String → HandlerSignature → Prop
  | here {declarations : List Declaration} {declaration : Declaration}
      {signature : HandlerSignature} (hmem : declaration ∈ declarations)
      (hsignature : declaration.signature = some signature) :
      DeclaredIn declarations [] signature
  | inside {declarations : List Declaration} {declaration : Declaration}
      {names : List String} {signature : HandlerSignature} (hmem : declaration ∈ declarations)
      (hinside : DeclaredIn declaration.children names signature) :
      DeclaredIn declarations (declaration.name :: names) signature

theorem DeclaredIn.mono {declarations more : List Declaration} {names : List String}
    {signature : HandlerSignature} (hdeclared : DeclaredIn declarations names signature)
    (hsubset : declarations ⊆ more) : DeclaredIn more names signature := by
  cases hdeclared with
  | here hmem hsignature => exact .here (hsubset hmem) hsignature
  | inside hmem hinside => exact .inside (hsubset hmem) hinside

theorem DeclaredIn.ne_nil {declarations : List Declaration} {names : List String}
    {signature : HandlerSignature} (hdeclared : DeclaredIn declarations names signature) :
    declarations ≠ [] := by
  cases hdeclared with
  | here hmem => exact List.ne_nil_of_mem hmem
  | inside hmem => exact List.ne_nil_of_mem hmem

/-- A handler with the path of its module is a function declared below a module path. -/
def StandsBelow (modulePath : String) (declarations : List Declaration)
    (placed : String × DiscoveredHandler) : Prop :=
  ∃ names, DeclaredIn declarations names placed.2.signature ∧
    placed.1 = names.foldl childPath modulePath

theorem StandsBelow.mono {modulePath : String} {declarations more : List Declaration}
    {placed : String × DiscoveredHandler} (hstands : StandsBelow modulePath declarations placed)
    (hsubset : declarations ⊆ more) : StandsBelow modulePath more placed := by
  obtain ⟨names, hdeclared, hpath⟩ := hstands
  exact ⟨names, hdeclared.mono hsubset, hpath⟩

theorem StandsBelow.outside {modulePath : String} {declarations : List Declaration}
    {declaration : Declaration} {placed : String × DiscoveredHandler}
    (hmem : declaration ∈ declarations)
    (hstands : StandsBelow (childPath modulePath declaration.name) declaration.children placed) :
    StandsBelow modulePath declarations placed := by
  obtain ⟨names, hdeclared, hpath⟩ := hstands
  exact ⟨declaration.name :: names, .inside hmem hdeclared, hpath⟩

section Places

variable {placed : String × DiscoveredHandler}

mutual

theorem standsBelow_of_discoverGroup {survey : Survey} {modulePath base : String} :
    ∀ declaration : Declaration,
    placed ∈ placedHandlersOf (discoverGroup survey modulePath base declaration).1.toList →
    StandsBelow (childPath modulePath declaration.name) declaration.children placed
  | ⟨name, kind, visibility, markers, children, signature, hasBody, location⟩ => by
      intro hmem
      rw [discoverGroup] at hmem
      dsimp only at hmem
      split_ifs at hmem
      · cases hmem
      · cases hmem
      · cases hmem
      · cases hmem
      · simp only [Option.toList_some, placedHandlersOf, DiscoveredGroup.placedHandlers,
          List.append_nil] at hmem
        exact standsBelow_of_discoverMembers children hmem

theorem standsBelow_of_discoverMembers {survey : Survey} {modulePath base : String} :
    ∀ children : List Declaration,
    placed ∈ (discoverMembers survey modulePath base children).1.handlers.map
        (fun handler => (modulePath, handler)) ++
      placedHandlersOf (discoverMembers survey modulePath base children).1.groups →
    StandsBelow modulePath children placed
  | [] => by
      intro hmem
      rw [discoverMembers] at hmem
      cases hmem
  | child :: rest => by
      intro hmem
      have hrest : ∀ {survey : Survey},
          placed ∈ (discoverMembers survey modulePath base rest).1.handlers.map
              (fun handler => (modulePath, handler)) ++
            placedHandlersOf (discoverMembers survey modulePath base rest).1.groups →
          StandsBelow modulePath (child :: rest) placed := fun hmem =>
        (standsBelow_of_discoverMembers rest hmem).mono (List.subset_cons_self child rest)
      rw [discoverMembers] at hmem
      split_ifs at hmem
      · dsimp only at hmem
        rw [placedHandlersOf_append, List.mem_append, List.mem_append] at hmem
        rcases hmem with hmem | hmem | hmem
        · exact hrest (List.mem_append_left _ hmem)
        · exact (standsBelow_of_discoverGroup child hmem).outside List.mem_cons_self
        · exact hrest (List.mem_append_right _ hmem)
      · exact hrest hmem
      · dsimp only at hmem
        rw [List.map_append, List.append_assoc, List.mem_append] at hmem
        rcases hmem with hmem | hmem
        · obtain ⟨handler, hhandler, rfl⟩ := List.mem_map.mp hmem
          obtain ⟨-, hsignature⟩ := discoverHandler_spec (Option.mem_toList.mp hhandler)
          exact ⟨[], .here List.mem_cons_self hsignature, rfl⟩
        · exact hrest hmem

end

/-- Every handler of a source is a function that its declarations hold in the modules where the
handler's group stands. -/
theorem standsBelow_of_discoverItems {survey : Survey} {modulePath : String}
    {items : List Declaration}
    (hmem : placed ∈ placedHandlersOf (discoverItems survey modulePath items).1) :
    StandsBelow modulePath items placed := by
  induction items generalizing survey with
  | nil => cases hmem
  | cons item items ih =>
      rw [discoverItems] at hmem
      split_ifs at hmem
      · dsimp only at hmem
        rw [placedHandlersOf_append, List.mem_append] at hmem
        rcases hmem with hmem | hmem
        · exact (standsBelow_of_discoverGroup item hmem).outside List.mem_cons_self
        · exact (ih hmem).mono (List.subset_cons_self item items)
      · exact (ih hmem).mono (List.subset_cons_self item items)

end Places

/-! ### Items -/

/-- A declaration of an item with a signature is that of a function. -/
theorem function_of_declarationOfItem? [SourceParser] {file : String} {item : Item}
    {declaration : Declaration} {signature : HandlerSignature}
    (hitem : declarationOfItem? file item = some declaration)
    (hsignature : declaration.signature = some signature) :
    ∃ attributes visibility source, item = .function attributes visibility source ∧
      signature = .ofSignature source := by
  cases item with
  | function attributes visibility source =>
      cases hitem
      cases hsignature
      exact ⟨attributes, visibility, source, rfl, rfl⟩
  | module attributes visibility name line content =>
      rw [declarationOfItem?.eq_def] at hitem
      cases hitem
      cases hsignature
  | other attributes => cases hitem
  | _ =>
      cases hitem
      cases hsignature

/-- A declaration of an item with children is that of an inline module. -/
theorem module_of_declarationOfItem? [SourceParser] {file : String} {item : Item}
    {declaration : Declaration} (hitem : declarationOfItem? file item = some declaration)
    (hchildren : declaration.children ≠ []) :
    ∃ attributes visibility line content,
      item = .module attributes visibility declaration.name line (some content) ∧
        declaration.children = declarationsOfItems file content := by
  cases item with
  | module attributes visibility name line content =>
      rw [declarationOfItem?.eq_def] at hitem
      cases hitem
      cases content with
      | none => exact absurd rfl hchildren
      | some content => exact ⟨attributes, visibility, line, content, rfl, rfl⟩
  | other attributes => cases hitem
  | _ =>
      cases hitem
      exact absurd rfl hchildren

/-- A function that items declare stands in inline modules of these names. -/
theorem DeclaredIn.exists_leadsInto [SourceParser] {file : String} {items : List Item}
    {names : List String} {signature : HandlerSignature}
    (hdeclared : DeclaredIn (declarationsOfItems file items) names signature) :
    ∃ content attributes visibility source, LeadsInto items names content ∧
      .function attributes visibility source ∈ content ∧ signature = .ofSignature source := by
  generalize hdeclarations : declarationsOfItems file items = declarations at hdeclared
  induction hdeclared generalizing items with
  | here hmem hsignature =>
      rw [← hdeclarations] at hmem
      obtain ⟨item, hmem, hitem⟩ := mem_declarationsOfItems hmem
      obtain ⟨attributes, visibility, source, rfl, rfl⟩ :=
        function_of_declarationOfItem? hitem hsignature
      exact ⟨items, attributes, visibility, source, .here, hmem, rfl⟩
  | inside hmem hinside ih =>
      rw [← hdeclarations] at hmem
      obtain ⟨item, hmem, hitem⟩ := mem_declarationsOfItems hmem
      obtain ⟨attributes, visibility, line, content, rfl, hcontent⟩ :=
        module_of_declarationOfItem? hitem hinside.ne_nil
      obtain ⟨inner, ownAttributes, ownVisibility, source, hleads, hfunction, hsame⟩ :=
        ih hcontent.symm
      exact ⟨inner, ownAttributes, ownVisibility, source, .inside hmem hleads, hfunction, hsame⟩

end MarkedRoutes
