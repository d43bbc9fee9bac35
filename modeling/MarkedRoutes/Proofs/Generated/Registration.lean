import Mathlib.Data.List.Forall2
import MarkedRoutes.Generated.Execution
import MarkedRoutes.Generated.File
import MarkedRoutes.Listing
import MarkedRoutes.Proofs.Generated.Naming
import MarkedRoutes.Proofs.Json.Members
import MarkedRoutes.Source.ItemGrammar

/-!
# Registration by generated programs

The functions of a generated program are named while the tree of groups is
walked, and the names serve both as definitions and as targets of calls.  Every
name is fresh, so every call finds the function that was emitted for it, and the
entry point registers the routes in the order of the walk.
-/

namespace MarkedRoutes

open MarkedRoutes.Source (unraw SourceParser)

/-! ### Names -/

theorem unraw_register (ending : String) :
    unraw ("register_" ++ ending) = "register_" ++ ending := by
  rw [unraw, String.toList_append]
  rfl

theorem unraw_dispatch (ending : String) :
    unraw ("dispatch_" ++ ending) = "dispatch_" ++ ending := by
  rw [unraw, String.toList_append]
  rfl

/-- Names were given one after another: each was fresh, and none is written as a raw
identifier. -/
structure Gives (before : NameTable) (given : List String) (after : NameTable) : Prop where
  nodup : before.used.Nodup → after.used.Nodup
  perm : after.used.Perm (before.used ++ given)
  unraw_eq : ∀ name ∈ given, unraw name = name

theorem Gives.nothing (names : NameTable) : Gives names [] names :=
  ⟨id, by rw [List.append_nil], fun _ hmem => absurd hmem List.not_mem_nil⟩

theorem Gives.append {first second third : NameTable} {given others : List String}
    (hfirst : Gives first given second) (hsecond : Gives second others third) :
    Gives first (given ++ others) third := by
  refine ⟨?_, ?_, ?_⟩
  · intro hnodup
    exact hsecond.nodup (hfirst.nodup hnodup)
  · have hperm := hsecond.perm.trans (hfirst.perm.append_right others)
    rwa [List.append_assoc] at hperm
  · intro name hmem
    rcases List.mem_append.mp hmem with hmem | hmem
    · exact hfirst.unraw_eq name hmem
    · exact hsecond.unraw_eq name hmem

theorem Gives.reorder {before after : NameTable} {given others : List String}
    (hgives : Gives before given after) (hperm : given.Perm others) : Gives before others after :=
  ⟨hgives.nodup, hgives.perm.trans (hperm.append_left _),
    fun name hmem => hgives.unraw_eq name (hperm.mem_iff.mpr hmem)⟩

/-- Names that were given differ from each other and from those before. -/
theorem Gives.nodup_append {before after : NameTable} {given : List String}
    (hgives : Gives before given after) (hbefore : before.used.Nodup) :
    (before.used ++ given).Nodup :=
  hgives.perm.nodup_iff.mp (hgives.nodup hbefore)

theorem Gives.map_unraw {before after : NameTable} {given : List String}
    (hgives : Gives before given after) : given.map unraw = given :=
  (List.map_congr_left hgives.unraw_eq).trans (List.map_id' given)

/-- One name is given. -/
theorem Gives.allocate (names : NameTable) {wanted : String}
    (hplain : ∀ ending, unraw (wanted ++ ending) = wanted ++ ending) :
    Gives names [(names.allocate wanted).1] (names.allocate wanted).2 := by
  refine ⟨?_, List.Perm.refl _, ?_⟩
  · intro hnodup
    rw [NameTable.allocate]
    refine List.nodup_append.mpr ⟨hnodup, List.nodup_singleton _, ?_⟩
    intro name hname given hgiven heq
    rw [List.mem_singleton.mp hgiven] at heq
    exact names.nameFor_notMem wanted (heq ▸ hname)
  · intro name hmem
    obtain ⟨ending, hending⟩ := names.exists_nameFor_eq_append wanted
    rw [List.mem_singleton.mp hmem, NameTable.allocate, hending]
    exact hplain ending

/-! ### What is emitted -/

/-- The registration that a function of a program stands for. -/
def GeneratedItem.registration? : GeneratedItem → Option Registration
  | dispatch function => some ⟨function.method, function.route, function⟩
  | registration _ => none

/-- The registrations that functions stand for, in order. -/
def registrationsIn (items : List GeneratedItem) : List Registration :=
  items.filterMap GeneratedItem.registration?

/-- A registration is the one of a route: it has the route's method and path, and the dispatch
function that is emitted for that route. -/
def Registers (route : Route) (registration : Registration) : Prop :=
  registration = ⟨route.method, route.template.text,
    route.dispatchFunction registration.function.name⟩

/-- What is emitted for routes: the names are fresh, there is one dispatch function for each
route in order, and the routes are listed in order. -/
structure Emits (before : NameTable) (routes : List Route) (emission : Emission)
    (after : NameTable) : Prop where
  names : Gives before (emission.items.map GeneratedItem.name) after
  registrations : List.Forall₂ Registers routes (registrationsIn emission.items)
  listings : emission.listings = routes.map Route.listing

theorem registrationsIn_append (first second : List GeneratedItem) :
    registrationsIn (first ++ second) = registrationsIn first ++ registrationsIn second :=
  List.filterMap_append

theorem Emits.append {first second third : NameTable} {routes others : List Route}
    {emission rest : Emission} (hfirst : Emits first routes emission second)
    (hsecond : Emits second others rest third) :
    Emits first (routes ++ others) (emission.append rest) third := by
  refine ⟨?_, ?_, ?_⟩
  · rw [Emission.append, List.map_append]
    exact hfirst.names.append hsecond.names
  · rw [Emission.append, registrationsIn_append]
    exact List.rel_append hfirst.registrations hsecond.registrations
  · rw [Emission.append, List.map_append, hfirst.listings, hsecond.listings]

theorem emits_nameDispatches (names : NameTable) (chain : String) (routes : List Route) :
    Emits names routes (.ofRoutes (nameDispatches names chain routes).1)
      (nameDispatches names chain routes).2 := by
  induction routes generalizing names with
  | nil => exact ⟨.nothing names, .nil, rfl⟩
  | cons route routes ih =>
      have hname : Gives names
          [(names.allocate ("dispatch_" ++ chain ++ "_" ++ route.handlerName)).1]
          (names.allocate ("dispatch_" ++ chain ++ "_" ++ route.handlerName)).2 := by
        refine .allocate names fun ending => ?_
        rw [String.append_assoc, String.append_assoc, String.append_assoc]
        exact unraw_dispatch _
      have hfirst : Emits names [route] (.ofRoutes
          [(route, (names.allocate ("dispatch_" ++ chain ++ "_" ++ route.handlerName)).1)])
          (names.allocate ("dispatch_" ++ chain ++ "_" ++ route.handlerName)).2 :=
        ⟨hname, .cons rfl .nil, rfl⟩
      exact hfirst.append (ih _)

/-- The registration function of a group was named before everything under the group and is
emitted behind it. -/
theorem Emits.register {before named after : NameTable} {routes : List Route} {emission : Emission}
    {function : RegistrationFunction} (hname : Gives before [function.name] named)
    (hemits : Emits named routes emission after) :
    Emits before routes (emission.append (.ofRegistration function)) after := by
  refine ⟨?_, ?_, ?_⟩
  · refine (hname.append hemits.names).reorder ?_
    rw [Emission.append, List.map_append]
    exact List.perm_append_comm
  · rw [Emission.append, registrationsIn_append]
    exact (List.append_nil (registrationsIn emission.items)).symm ▸ hemits.registrations
  · rw [Emission.append, hemits.listings]
    exact List.append_nil _

mutual

/-- A group's routes are emitted before those of its nested groups. -/
theorem emits_emitGroup (names : NameTable) (chain : String) : ∀ group : RouteGroup,
    Emits names group.allRoutes (emitGroup names chain group).1.2 (emitGroup names chain group).2
  | ⟨name, modulePath, base, routes, groups⟩ => by
      have hname : Gives names [(names.allocate ("register_" ++ chain)).1]
          (names.allocate ("register_" ++ chain)).2 :=
        .allocate names fun ending => String.append_assoc ▸ unraw_register _
      have hown := emits_nameDispatches (names.allocate ("register_" ++ chain)).2 chain routes
      have hnested := emits_emitGroups
        (nameDispatches (names.allocate ("register_" ++ chain)).2 chain routes).2 (chain ++ "_")
        groups
      rw [RouteGroup.allRoutes, emitGroup]
      exact .register hname (hown.append hnested)

/-- The routes of groups are emitted group by group. -/
theorem emits_emitGroups (names : NameTable) (start : String) : ∀ groups : List RouteGroup,
    Emits names (allRoutesOf groups) (emitGroups names start groups).1.2
      (emitGroups names start groups).2
  | [] => ⟨.nothing names, .nil, rfl⟩
  | first :: rest => by
      have hfirst := emits_emitGroup names (start ++ first.name) first
      have hrest := emits_emitGroups (emitGroup names (start ++ first.name) first).2 start rest
      rw [allRoutesOf, emitGroups]
      exact hfirst.append hrest

end

/-! ### Calls -/

/-- A program finds functions by their names. -/
def Finds (program : GeneratedProgram) (items : List GeneratedItem) : Prop :=
  ∀ item ∈ items, program.item? item.name = some item

theorem Finds.mono {program : GeneratedProgram} {items more : List GeneratedItem}
    (hfinds : Finds program more) (hsubset : items ⊆ more) : Finds program items :=
  fun item hmem => hfinds item (hsubset hmem)

/-- The statements for a group's own routes register them in order. -/
theorem registrationsOf_routes {program : GeneratedProgram} {named : List (Route × String)}
    (hfinds : Finds program (named.map dispatchItem)) {fuel : ℕ} {rest : List RegistrationCall}
    {others : List Registration} (hrest : program.registrationsOf fuel rest = some others) :
    program.registrationsOf fuel (named.map registrationCall ++ rest) =
      some (registrationsIn (named.map dispatchItem) ++ others) := by
  induction named with
  | nil => exact hrest
  | cons entry named ih =>
      have hfound : program.dispatch? entry.2 = some (entry.1.dispatchFunction entry.2) := by
        have hitem : program.item? entry.2 = some (dispatchItem entry) :=
          hfinds (dispatchItem entry) List.mem_cons_self
        rw [GeneratedProgram.dispatch?, hitem]
        rfl
      have hothers := ih (hfinds.mono (List.subset_cons_self _ _))
      rw [List.map_cons, List.cons_append, registrationCall, GeneratedProgram.registrationsOf,
        hfound, hothers]
      rfl

/-- A call registers what the called function registers. -/
theorem registrationsOf_call {program : GeneratedProgram} {function : RegistrationFunction}
    {fuel : ℕ} {rest : List RegistrationCall} {inner others : List Registration}
    (hfound : program.item? function.name = some (.registration function))
    (hinner : program.registrationsOf fuel function.calls = some inner)
    (hrest : program.registrationsOf (fuel + 1) rest = some others) :
    program.registrationsOf (fuel + 1) (.group function.name :: rest) = some (inner ++ others) := by
  have hfunction : program.registration? function.name = some function := by
    rw [GeneratedProgram.registration?, hfound]
  rw [GeneratedProgram.registrationsOf, hfunction]
  simp only [Option.bind_eq_bind, Option.bind_some, hinner, hrest]

mutual

/-- The call of a group's registration function registers what was emitted for the group. -/
theorem registrationsOf_emitGroup {program : GeneratedProgram} (names : NameTable)
    (chain : String) : ∀ (group : RouteGroup) (fuel : ℕ) (rest : List RegistrationCall)
    (others : List Registration), Finds program (emitGroup names chain group).1.2.items →
    (emitGroup names chain group).1.2.items.length ≤ fuel →
    program.registrationsOf fuel rest = some others →
    program.registrationsOf fuel (.group (emitGroup names chain group).1.1 :: rest) =
      some (registrationsIn (emitGroup names chain group).1.2.items ++ others)
  | ⟨name, modulePath, base, routes, groups⟩ => by
      intro fuel rest others hfinds hfuel hrest
      rcases hregistration : names.allocate ("register_" ++ chain) with ⟨registration, named⟩
      rcases hown : nameDispatches named chain routes with ⟨own, owned⟩
      rcases hinner : emitGroups owned (chain ++ "_") groups with ⟨⟨nested, inner⟩, after⟩
      have hnested := @registrationsOf_emitGroups program owned (chain ++ "_") groups
      simp only [hinner] at hnested
      simp only [emitGroup, hregistration, hown, hinner, Emission.append, Emission.ofRoutes,
        Emission.ofRegistration] at hfinds hfuel ⊢
      rw [List.length_append, List.length_append, List.length_singleton] at hfuel
      have hregistrations : registrationsIn (own.map dispatchItem ++ inner.items ++
          [.registration ⟨registration, modulePath, base, own.map registrationCall ++
            nested.map RegistrationCall.group⟩]) =
          registrationsIn (own.map dispatchItem) ++ registrationsIn inner.items := by
        rw [registrationsIn_append, registrationsIn_append]
        exact List.append_nil _
      rw [hregistrations]
      cases fuel with
      | zero => omega
      | succ fuel =>
          have hcalls := hnested fuel
            (hfinds.mono fun item hmem =>
              List.mem_append_left _ (List.mem_append_right _ hmem))
            (by omega)
          have hstatements := registrationsOf_routes
            (hfinds.mono fun item hmem =>
              List.mem_append_left _ (List.mem_append_left _ hmem))
            hcalls
          have hfound := hfinds _ (List.mem_append_right _ (List.mem_singleton_self _))
          exact registrationsOf_call hfound hstatements hrest

/-- The calls of the groups' registration functions register what was emitted for the
groups. -/
theorem registrationsOf_emitGroups {program : GeneratedProgram} (names : NameTable)
    (start : String) : ∀ (groups : List RouteGroup) (fuel : ℕ),
    Finds program (emitGroups names start groups).1.2.items →
    (emitGroups names start groups).1.2.items.length ≤ fuel →
    program.registrationsOf fuel ((emitGroups names start groups).1.1.map RegistrationCall.group) =
      some (registrationsIn (emitGroups names start groups).1.2.items)
  | [] => by
      intro fuel hfinds hfuel
      rw [emitGroups]
      exact GeneratedProgram.registrationsOf.eq_def program fuel []
  | first :: rest => by
      intro fuel hfinds hfuel
      rw [emitGroups] at hfinds hfuel ⊢
      simp only [Emission.append] at hfinds hfuel ⊢
      rw [List.length_append] at hfuel
      rw [List.map_cons, registrationsIn_append]
      have hrest := registrationsOf_emitGroups (emitGroup names (start ++ first.name) first).2 start
        rest fuel (hfinds.mono (List.subset_append_right _ _))
        (Nat.le_trans (Nat.le_add_left _ _) hfuel)
      exact registrationsOf_emitGroup names (start ++ first.name) first fuel _ _
        (hfinds.mono (List.subset_append_left _ _))
        (Nat.le_trans (Nat.le_add_right _ _) hfuel) hrest

end

theorem filter_name_eq {items : List GeneratedItem} {item : GeneratedItem}
    (hnodup : (items.map GeneratedItem.name).Nodup) (hmem : item ∈ items) :
    items.filter (fun other => other.name = item.name) = [item] := by
  induction items with
  | nil => cases hmem
  | cons first items ih =>
      obtain ⟨hfirst, hnodup⟩ := List.nodup_cons.mp hnodup
      rcases List.mem_cons.mp hmem with rfl | hmem
      · rw [List.filter_cons, if_pos (decide_eq_true rfl)]
        refine congrArg (item :: ·) (List.filter_eq_nil_iff.mpr fun other hother hname => ?_)
        exact hfirst (of_decide_eq_true hname ▸ List.mem_map_of_mem hother)
      · rw [List.filter_cons_of_neg fun hname => ?_, ih hnodup hmem]
        exact hfirst (of_decide_eq_true hname ▸ List.mem_map_of_mem hmem)

/-- Functions with different names are found by their names. -/
theorem finds_of_nodup {program : GeneratedProgram}
    (hnames : (program.entry :: program.items.map GeneratedItem.name).Nodup)
    (hentry : unraw program.entry = program.entry)
    (hplain : ∀ item ∈ program.items, unraw item.name = item.name) :
    Finds program program.items := by
  intro item hmem
  obtain ⟨hfresh, hnodup⟩ := List.nodup_cons.mp hnames
  have hne : unraw program.entry ≠ unraw item.name := by
    rw [hentry, hplain item hmem]
    intro heq
    exact hfresh (heq ▸ List.mem_map_of_mem hmem)
  have hsame : program.items.filter (fun other => unraw other.name = unraw item.name) =
      program.items.filter fun other => other.name = item.name :=
    List.filter_congr fun other hother => by rw [hplain other hother, hplain item hmem]
  rw [GeneratedProgram.item?, if_neg hne, hsame, filter_name_eq hnodup hmem]

/-! ### Listings -/

/-- The listing that a route's JSON holds. -/
def listingOfJson? (route : Json) : Option RouteListing :=
  match route.member? "method", route.member? "path", route.member? "handler" with
  | some (.string method), some (.string path), some (.string handler) =>
    some ⟨method, path, handler⟩
  | _, _, _ => none

/-- The listings that the JSON of a program's routes holds. -/
def listingsOfJson? (routes : Json) : Option (List RouteListing) :=
  match routes.member? "routes" with
  | some (.array routes) => routes.mapM listingOfJson?
  | _ => none

theorem listingOfJson?_json (route : Route) : listingOfJson? route.json = some route.listing := by
  rw [listingOfJson?, Route.json, Json.member?_ofMembers, Json.member?_ofMembers,
    Json.member?_ofMembers]
  rfl

theorem listingsOfJson?_routeJson (groups : List RouteGroup) :
    listingsOfJson? (routeJson groups) = some ((allRoutesOf groups).map Route.listing) := by
  have hroutes : (routeJson groups).member? "routes" =
      some (.array ((allRoutesOf groups).map Route.json)) := rfl
  rw [listingsOfJson?, hroutes]
  dsimp only
  induction allRoutesOf groups with
  | nil => rfl
  | cons route routes ih =>
      rw [List.map_cons, List.mapM_cons, listingOfJson?_json, ih]
      rfl

mutual

theorem length_allRoutes : ∀ group : RouteGroup, group.allRoutes.length = group.routeCount
  | ⟨name, modulePath, base, routes, groups⟩ => by
      rw [RouteGroup.allRoutes, RouteGroup.routeCount, List.length_append,
        length_allRoutesOf groups]

theorem length_allRoutesOf : ∀ groups : List RouteGroup,
    (allRoutesOf groups).length = routeCountOf groups
  | [] => rfl
  | first :: rest => by
      rw [allRoutesOf, routeCountOf, List.length_append, length_allRoutes first,
        length_allRoutesOf rest]

end

def Registration.listing (registration : Registration) : RouteListing :=
  ⟨registration.method.name, registration.path, registration.function.handlerPath⟩

theorem listings_of_registers {routes : List Route} {registrations : List Registration}
    (hregisters : List.Forall₂ Registers routes registrations) :
    registrations.map Registration.listing = routes.map Route.listing := by
  induction hregisters with
  | nil => rfl
  | cons hfirst _ ih =>
      rw [List.map_cons, List.map_cons, ih, hfirst]
      rfl

/-! ### Programs -/

/-- What a generated program registers, and where else the same routes stand. -/
structure RegistersAll [SourceParser] (program : GeneratedProgram) (groups : List RouteGroup)
    (registrations : List Registration) : Prop where
  run : program.registrations? = some registrations
  routes : List.Forall₂ Registers (allRoutesOf groups) registrations
  emitted : program.items.filterMap GeneratedItem.registration? = registrations
  names_nodup : (program.entry :: program.items.map GeneratedItem.name).Nodup
  listings_eq : program.listings = registrations.map Registration.listing
  generated_eq : ∀ (configuration : Configuration) (file : GeneratedFile),
    configuration.entryFunction = program.entry →
    (generate configuration groups).1 = .ok file →
    file.listings = registrations.map Registration.listing
  allRoutes_eq : (allRoutesOf groups).map Route.listing = registrations.map Registration.listing
  json_eq : listingsOfJson? (routeJson groups) = some (registrations.map Registration.listing)
  count_eq : registrations.length = routeCountOf groups

theorem listings_of_generate [SourceParser] {configuration : Configuration}
    {groups : List RouteGroup} {file : GeneratedFile}
    (hgenerate : (generate configuration groups).1 = .ok file) :
    file.listings =
      (GeneratedProgram.ofGroups configuration.entryFunction groups).1.listings := by
  rw [generate] at hgenerate
  split at hgenerate
  · cases hgenerate
  · dsimp only at hgenerate
    split at hgenerate
    · cases hgenerate
    · split_ifs at hgenerate
      cases hgenerate
      rfl

/-- The entry point of a generated program registers every route once, in order and with its
own dispatch function. -/
theorem registersAll_ofGroups [SourceParser] {entry : String} (hentry : unraw entry = entry)
    (groups : List RouteGroup) :
    ∃ registrations,
      RegistersAll (GeneratedProgram.ofGroups entry groups).1 groups registrations := by
  have hemits := emits_emitGroups (.ofName entry) "" groups
  have hnodup := hemits.names.nodup_append (List.nodup_singleton entry)
  have hfinds : Finds (GeneratedProgram.ofGroups entry groups).1
      (emitGroups (.ofName entry) "" groups).1.2.items :=
    finds_of_nodup hnodup hentry fun item hmem =>
      hemits.names.unraw_eq item.name (List.mem_map_of_mem hmem)
  have hrun := registrationsOf_emitGroups (.ofName entry) "" groups _ hfinds (Nat.le_refl _)
  have hlistings := listings_of_registers hemits.registrations
  refine ⟨_, hrun, hemits.registrations, rfl, hnodup, ?_, ?_, ?_, ?_, ?_⟩
  · exact hemits.listings.trans hlistings.symm
  · intro configuration file hconfiguration hgenerate
    rw [listings_of_generate hgenerate, hconfiguration]
    exact hemits.listings.trans hlistings.symm
  · exact hlistings.symm
  · rw [hlistings]
    exact listingsOfJson?_routeJson groups
  · rw [← length_allRoutesOf]
    exact hemits.registrations.length_eq.symm

def pingRoute : Route where
  method := .get
  template := .ofText "/ping"
  handlerName := "ping"
  handlerPath := "crate::ping"
  isAsync := false
  parameters := []
  returns := ⟨.unit, false⟩

/-- The groups `a_b` and `b` inside `a`, whose joined names are the same. -/
def joinedGroups : List RouteGroup :=
  [⟨"a_b", "crate::a_b", "", [pingRoute], []⟩,
    ⟨"a", "crate::a", "", [], [⟨"b", "crate::a::b", "", [pingRoute], []⟩]⟩]

section Standard

attribute [local instance] SourceParser.standard

theorem registersAll_joined :
    unraw "register_routes" = "register_routes" ∧
      ∃ registrations, RegistersAll
        (GeneratedProgram.ofGroups "register_routes" joinedGroups).1 joinedGroups registrations :=
  ⟨by decide, registersAll_ofGroups (by decide) joinedGroups⟩

end Standard

example :
    (GeneratedProgram.ofGroups "register_routes" joinedGroups).1.items.map GeneratedItem.name =
      ["dispatch_a_b_ping", "register_a_b", "dispatch_a_b_ping_1", "register_a_b_1",
        "register_a"] := by
  decide

end MarkedRoutes
