import Mathlib.Data.Finset.Card
import Mathlib.Order.Bounds.Defs
import MarkedRoutes.Proofs.Generated.Registration

/-!
# Names in the order of the walk

A wanted name is given as it is while it is free, and else with the least number that makes it
free.  A generated program takes its names from one table while its groups are walked: a group
before its routes, these before the nested groups.  So every name depends on those before it
alone, and whatever follows in the walk changes none of them.
-/

namespace MarkedRoutes

/-! ### The number of a name -/

theorem le_freeNumber (used : List String) (name : String) (bound number : ℕ) :
    number ≤ freeNumber used name bound number := by
  induction bound generalizing number with
  | zero => exact Nat.le_refl number
  | succ bound ih =>
      rw [freeNumber]
      split_ifs
      · exact Nat.le_of_succ_le (ih (number + 1))
      · exact Nat.le_refl number

/-- Every number that the search passes by has a name in use. -/
theorem mem_of_lt_freeNumber {used : List String} {name : String} {bound number earlier : ℕ}
    (hle : number ≤ earlier) (hlt : earlier < freeNumber used name bound number) :
    numberedName name earlier ∈ used := by
  induction bound generalizing number with
  | zero => exact absurd hlt (Nat.not_lt_of_le hle)
  | succ bound ih =>
      rw [freeNumber] at hlt
      split_ifs at hlt with hcontains
      · rcases Nat.eq_or_lt_of_le hle with rfl | hnext
        · exact List.contains_iff_mem.mp hcontains
        · exact ih hnext hlt
      · exact absurd hlt (Nat.not_lt_of_le hle)

/-- The search ends on the least number, from one on, whose name is free. -/
theorem isLeast_freeNumber (used : List String) (name : String) :
    IsLeast {number | 1 ≤ number ∧ numberedName name number ∉ used}
      (freeNumber used name used.length 1) := by
  refine ⟨⟨le_freeNumber used name used.length 1, numberedName_freeNumber_notMem used name⟩, ?_⟩
  rintro number ⟨hone, hfree⟩
  by_contra hlt
  exact hfree (mem_of_lt_freeNumber hone (Nat.lt_of_not_le hlt))

theorem numberedName_ne (name : String) (number : ℕ) : numberedName name number ≠ name := by
  intro heq
  have hlength := congrArg String.length heq
  rw [numberedName, String.length_append, String.length_append] at hlength
  have hone : "_".length = 1 := rfl
  omega

/-- When a name is in use, the search passes by fewer numbers than there are names in use. -/
theorem freeNumber_le_card {used : List String} {name : String} (hmem : name ∈ used) :
    freeNumber used name used.length 1 ≤ used.toFinset.card := by
  let candidate : ℕ → String := fun number =>
    if number = 0 then name else numberedName name number
  have hused : ∀ number ∈ Finset.range (freeNumber used name used.length 1),
      candidate number ∈ used.toFinset := by
    intro number hnumber
    rw [List.mem_toFinset]
    by_cases hzero : number = 0
    · simpa only [candidate, hzero, if_true] using hmem
    · simpa only [candidate, hzero, if_false] using
        mem_of_lt_freeNumber (Nat.one_le_iff_ne_zero.mpr hzero) (Finset.mem_range.mp hnumber)
  have hinjective : Function.Injective candidate := by
    intro first second heq
    by_cases hfirst : first = 0 <;> by_cases hsecond : second = 0 <;>
      simp only [candidate, hfirst, hsecond, if_true, if_false] at heq
    · rw [hfirst, hsecond]
    · exact absurd heq.symm (numberedName_ne name second)
    · exact absurd heq (numberedName_ne name first)
    · exact numberedName_injective name heq
  calc
    freeNumber used name used.length 1
      = (Finset.range (freeNumber used name used.length 1)).card := (Finset.card_range _).symm
    _ ≤ used.toFinset.card :=
      Finset.card_le_card_of_injOn candidate hused (hinjective.injOn)

namespace NameTable

/-- A free name is given as it is, and nothing is logged. -/
theorem allocate_of_notMem {table : NameTable} {name : String} (hfree : name ∉ table.used) :
    table.allocate name = (name, ⟨table.used ++ [name], table.events⟩) := by
  have hname : table.nameFor name = name := by
    rw [nameFor, if_neg fun hcontains => hfree (List.contains_iff_mem.mp hcontains)]
  rw [allocate, hname, if_pos rfl, List.append_nil]

/-- A name in use is given with a number, and one event says so. -/
theorem allocate_of_mem {table : NameTable} {name : String} (hmem : name ∈ table.used) :
    table.allocate name =
      (numberedName name (freeNumber table.used name table.used.length 1),
        ⟨table.used ++ [numberedName name (freeNumber table.used name table.used.length 1)],
          table.events ++ [numberingEvent name
            (numberedName name (freeNumber table.used name table.used.length 1))]⟩) := by
  have hname : table.nameFor name =
      numberedName name (freeNumber table.used name table.used.length 1) := by
    rw [nameFor, if_pos (List.contains_iff_mem.mpr hmem)]
  rw [allocate, hname, if_neg (numberedName_ne name _)]

/-- Takes names for a list of wanted names, one after the other. -/
def allocateAll (table : NameTable) : List String → List String × NameTable
  | [] => ([], table)
  | first :: rest =>
    let (given, table) := table.allocate first
    let (others, table) := table.allocateAll rest
    (given :: others, table)

theorem allocateAll_append (table : NameTable) (names more : List String) :
    table.allocateAll (names ++ more) =
      ((table.allocateAll names).1 ++ ((table.allocateAll names).2.allocateAll more).1,
        ((table.allocateAll names).2.allocateAll more).2) := by
  induction names generalizing table with
  | nil => rfl
  | cons first names ih =>
      rw [List.cons_append, allocateAll, allocateAll]
      dsimp only
      rw [ih]
      rfl

/-- Names that are taken differ from each other and from those in use. -/
theorem nodup_allocateAll {table : NameTable} (hnodup : table.used.Nodup) (names : List String) :
    (table.used ++ (table.allocateAll names).1).Nodup := by
  induction names generalizing table with
  | nil => rwa [allocateAll, List.append_nil]
  | cons first names ih =>
      have hfresh : (table.allocate first).2.used.Nodup := by
        rw [allocate]
        refine List.nodup_append.mpr ⟨hnodup, List.nodup_singleton _, ?_⟩
        intro name hname given hgiven heq
        rw [List.mem_singleton.mp hgiven] at heq
        exact table.nameFor_notMem first (heq ▸ hname)
      have hothers := ih hfresh
      rwa [allocate, List.append_assoc, List.singleton_append] at hothers

end NameTable

/-! ### What bears a name -/

/-- What a function of a generated program is emitted for: a group, or a route of a group.  The
chain joins the names of the groups from the outermost down. -/
inductive NameBearer where
  | group (chain modulePath base : String)
  | route (chain : String) (served : Route)
  deriving DecidableEq

namespace NameBearer

def wantedName : NameBearer → String
  | group chain _ _ => "register_" ++ chain
  | route chain served => "dispatch_" ++ chain ++ "_" ++ served.handlerName

/-- A function of a program is the one that is emitted for what bears its name. -/
def Owns : NameBearer → GeneratedItem → Prop
  | group _ modulePath base, item =>
    ∃ name calls, item = .registration ⟨name, modulePath, base, calls⟩
  | route _ served, item => ∃ name, item = .dispatch (served.dispatchFunction name)

end NameBearer

mutual

/-- What bears a name in a group, in the order of the walk: the group, its routes, and what
stands in the nested groups. -/
def RouteGroup.bearers (chain : String) : RouteGroup → List NameBearer
  | ⟨_, modulePath, base, routes, groups⟩ =>
    .group chain modulePath base ::
      (routes.map (NameBearer.route chain) ++ bearersOf (chain ++ "_") groups)

/-- What bears a name in a list of groups, in the order of the walk.  Every chain begins with
`start`. -/
def bearersOf (start : String) : List RouteGroup → List NameBearer
  | [] => []
  | first :: rest => first.bearers (start ++ first.name) ++ bearersOf start rest

end

/-- The names that the functions of a program get, in the order of the walk. -/
def givenNames (entry : String) (groups : List RouteGroup) : List String :=
  ((NameTable.ofName entry).allocateAll
    ((bearersOf "" groups).map NameBearer.wantedName)).1

/-! ### What is emitted -/

/-- What is emitted has one function for each bearer, and in the order of the bearers the names
are taken one after the other. -/
def NamesInOrder (before : NameTable) (bearers : List NameBearer) (emission : Emission)
    (after : NameTable) : Prop :=
  ∃ ordered, emission.items.Perm ordered ∧ List.Forall₂ NameBearer.Owns bearers ordered ∧
    before.allocateAll (bearers.map NameBearer.wantedName) =
      (ordered.map GeneratedItem.name, after)

theorem NamesInOrder.nothing (names : NameTable) : NamesInOrder names [] .empty names :=
  ⟨[], .nil, .nil, rfl⟩

theorem NamesInOrder.append {first second third : NameTable} {bearers others : List NameBearer}
    {emission rest : Emission} (hfirst : NamesInOrder first bearers emission second)
    (hsecond : NamesInOrder second others rest third) :
    NamesInOrder first (bearers ++ others) (emission.append rest) third := by
  obtain ⟨ordered, hperm, howns, hnames⟩ := hfirst
  obtain ⟨more, hmorePerm, hmoreOwns, hmoreNames⟩ := hsecond
  refine ⟨ordered ++ more, hperm.append hmorePerm, List.rel_append howns hmoreOwns, ?_⟩
  rw [List.map_append, NameTable.allocateAll_append, hnames, hmoreNames, List.map_append]

/-- The registration function of a group is named before everything under the group and is
emitted behind it. -/
theorem NamesInOrder.register {before after : NameTable} {chain : String}
    {function : RegistrationFunction} {bearers : List NameBearer} {emission : Emission}
    (hname : function.name = (before.allocate ("register_" ++ chain)).1)
    (hemits : NamesInOrder (before.allocate ("register_" ++ chain)).2 bearers emission after) :
    NamesInOrder before (.group chain function.modulePath function.base :: bearers)
      (emission.append (.ofRegistration function)) after := by
  obtain ⟨ordered, hperm, howns, hnames⟩ := hemits
  refine ⟨.registration function :: ordered, ?_, .cons ⟨_, _, rfl⟩ howns, ?_⟩
  · exact (hperm.append_right _).trans List.perm_append_comm
  · rw [List.map_cons, NameTable.allocateAll, NameBearer.wantedName]
    dsimp only
    rw [hnames, ← hname]
    rfl

theorem namesInOrder_nameDispatches (names : NameTable) (chain : String) (routes : List Route) :
    NamesInOrder names (routes.map (NameBearer.route chain))
      (.ofRoutes (nameDispatches names chain routes).1)
      (nameDispatches names chain routes).2 := by
  induction routes generalizing names with
  | nil => exact .nothing names
  | cons route routes ih =>
      have hfirst : NamesInOrder names [.route chain route]
          (.ofRoutes
            [(route, (names.allocate ("dispatch_" ++ chain ++ "_" ++ route.handlerName)).1)])
          (names.allocate ("dispatch_" ++ chain ++ "_" ++ route.handlerName)).2 :=
        ⟨[_], .refl _, .cons ⟨_, rfl⟩ .nil, rfl⟩
      exact hfirst.append (ih _)

mutual

/-- A group is named first, then its routes, then what stands in its nested groups. -/
theorem namesInOrder_emitGroup (names : NameTable) (chain : String) : ∀ group : RouteGroup,
    NamesInOrder names (group.bearers chain) (emitGroup names chain group).1.2
      (emitGroup names chain group).2
  | ⟨name, modulePath, base, routes, groups⟩ => by
      have hown := namesInOrder_nameDispatches (names.allocate ("register_" ++ chain)).2 chain
        routes
      have hnested := namesInOrder_emitGroups
        (nameDispatches (names.allocate ("register_" ++ chain)).2 chain routes).2 (chain ++ "_")
        groups
      rw [RouteGroup.bearers, emitGroup]
      exact .register rfl (hown.append hnested)

/-- Groups are named one after the other. -/
theorem namesInOrder_emitGroups (names : NameTable) (start : String) :
    ∀ groups : List RouteGroup,
      NamesInOrder names (bearersOf start groups) (emitGroups names start groups).1.2
        (emitGroups names start groups).2
  | [] => .nothing names
  | first :: rest => by
      have hfirst := namesInOrder_emitGroup names (start ++ first.name) first
      have hrest := namesInOrder_emitGroups (emitGroup names (start ++ first.name) first).2 start
        rest
      rw [bearersOf, emitGroups]
      exact hfirst.append hrest

end

/-! ### Programs -/

/-- What follows in the walk changes no name before it. -/
theorem givenNames_isPrefix {entry : String} {groups later : List RouteGroup}
    (hlater : bearersOf "" groups <+: bearersOf "" later) :
    givenNames entry groups <+: givenNames entry later := by
  obtain ⟨more, hmore⟩ := hlater
  rw [givenNames, givenNames, ← hmore, List.map_append, NameTable.allocateAll_append]
  exact List.prefix_append _ _

/-- A table gives a free name as it is, and else the name with the least number that makes it
free, with one warning; that number is at most the number of names in use.  The functions of a
generated program get their names so, in the order of the walk: the names differ from each other
and from the entry point, and they stay when the walk goes on. -/
theorem givenNames_fresh :
    (∀ (table : NameTable) (name : String),
      (name ∉ table.used →
        table.allocate name = (name, ⟨table.used ++ [name], table.events⟩)) ∧
      (name ∈ table.used → ∃ number,
        IsLeast {number | 1 ≤ number ∧ numberedName name number ∉ table.used} number ∧
        number ≤ table.used.toFinset.card ∧
        table.allocate name = (numberedName name number,
          ⟨table.used ++ [numberedName name number], table.events ++
            [⟨.warning, "Duplicate generated name",
              [("name", name), ("using", numberedName name number)]⟩]⟩))) ∧
    ∀ (entry : String) (groups : List RouteGroup),
      (∃ ordered, (GeneratedProgram.ofGroups entry groups).1.items.Perm ordered ∧
        List.Forall₂ NameBearer.Owns (bearersOf "" groups) ordered ∧
        ordered.map GeneratedItem.name = givenNames entry groups) ∧
      (entry :: givenNames entry groups).Nodup ∧
      ∀ later, bearersOf "" groups <+: bearersOf "" later →
        givenNames entry groups <+: givenNames entry later := by
  refine ⟨fun table name => ⟨NameTable.allocate_of_notMem, fun hmem => ?_⟩,
    fun entry groups => ⟨?_, ?_, fun later => givenNames_isPrefix⟩⟩
  · exact ⟨_, isLeast_freeNumber table.used name, freeNumber_le_card hmem,
      NameTable.allocate_of_mem hmem⟩
  · obtain ⟨ordered, hperm, howns, hnames⟩ := namesInOrder_emitGroups (.ofName entry) "" groups
    exact ⟨ordered, hperm, howns, (congrArg Prod.fst hnames).symm⟩
  · have hentry : (NameTable.ofName entry).used.Nodup := List.nodup_singleton entry
    exact NameTable.nodup_allocateAll hentry _

/-- A table in which a name and its first number are taken. -/
def takenTable : NameTable := ⟨["register_a", "register_a_1"], []⟩

/-- The groups `a_b` and `a`; in `joinedGroups` the walk goes on to a group inside `a`. -/
def outerGroups : List RouteGroup :=
  [⟨"a_b", "crate::a_b", "", [pingRoute], []⟩, ⟨"a", "crate::a", "", [], []⟩]

theorem givenNames_fresh_joined :
    ("register_b" ∉ takenTable.used ∧
      takenTable.allocate "register_b" =
        ("register_b", ⟨["register_a", "register_a_1", "register_b"], []⟩)) ∧
    ("register_a" ∈ takenTable.used ∧ ∃ number,
      IsLeast {number | 1 ≤ number ∧ numberedName "register_a" number ∉ takenTable.used} number ∧
      number ≤ 2 ∧
      takenTable.allocate "register_a" = (numberedName "register_a" number,
        ⟨takenTable.used ++ [numberedName "register_a" number],
          [⟨.warning, "Duplicate generated name",
            [("name", "register_a"), ("using", numberedName "register_a" number)]⟩]⟩)) ∧
    (bearersOf "" outerGroups <+: bearersOf "" joinedGroups ∧
      givenNames "register_routes" outerGroups <+: givenNames "register_routes" joinedGroups) := by
  obtain ⟨hallocate, hprograms⟩ := givenNames_fresh
  have hfree : "register_b" ∉ takenTable.used := by decide
  have htaken : "register_a" ∈ takenTable.used := by decide
  have hlater : bearersOf "" outerGroups <+: bearersOf "" joinedGroups := by decide
  exact ⟨⟨hfree, (hallocate takenTable "register_b").1 hfree⟩,
    ⟨htaken, (hallocate takenTable "register_a").2 htaken⟩,
    ⟨hlater, (hprograms "register_routes" outerGroups).2.2 joinedGroups hlater⟩⟩

example : givenNames "register_routes" joinedGroups =
    ["register_a_b", "dispatch_a_b_ping", "register_a", "register_a_b_1",
      "dispatch_a_b_ping_1"] := by
  decide

end MarkedRoutes
