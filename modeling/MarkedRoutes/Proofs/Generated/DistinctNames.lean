import MarkedRoutes.Proofs.Generated.Header

/-!
# Names of generated functions

Every name that is given to a function of a generated program is new, and it is never written
as a raw identifier.  The name of the entry point is taken from the configuration as it is
written there.  So two functions of a generated file are the same identifier only when one of
them is the entry point, written as a raw identifier, and the other has its bare name.
-/

namespace MarkedRoutes

open MarkedRoutes.Source

/-- The names of the functions of a program, entry point first. -/
def GeneratedProgram.functionNames (program : GeneratedProgram) : List String :=
  program.entry :: program.items.map GeneratedItem.name

/-! ### Functions of a file -/

/-- Tokens define a function: documentation and another attribute, the visibility if there is
one, and the name. -/
def DefinesFunction (name : String) (tokens : List Token) : Prop :=
  ∃ (literals : List String) (visibility rest : List Token),
    tokens = literals.flatMap documentation ++
      (allowUnused ++ (visibility ++ word "fn" :: word name :: rest))

theorem definesFunction_of_item [SourceParser] {item : GeneratedItem} {runtime tokens : List Token}
    (htokens : item.tokens runtime = .ok tokens) : DefinesFunction item.name tokens := by
  cases item with
  | dispatch function =>
      rw [GeneratedItem.tokens, DispatchFunction.tokens] at htokens
      obtain ⟨steps, -, htokens⟩ := bind_eq_ok_iff.mp htokens
      obtain ⟨handler, -, htokens⟩ := bind_eq_ok_iff.mp htokens
      cases htokens
      exact ⟨[Text.stringLiteral function.title], [], _, rfl⟩
  | registration function =>
      cases htokens
      exact ⟨[Text.stringLiteral function.title], [], _, rfl⟩

/-- The functions of a program stand behind each other. -/
theorem exists_definitions_of_itemTokens [SourceParser] {runtime : List Token}
    {items : List GeneratedItem} {tokens : List Token}
    (htokens : itemTokens runtime items = .ok tokens) :
    ∃ definitions, tokens = definitions.flatten ∧
      List.Forall₂ DefinesFunction (items.map GeneratedItem.name) definitions := by
  induction items generalizing tokens with
  | nil =>
      cases htokens
      exact ⟨[], rfl, .nil⟩
  | cons first items ih =>
      rw [itemTokens] at htokens
      obtain ⟨item, hitem, htokens⟩ := bind_eq_ok_iff.mp htokens
      obtain ⟨others, hothers, htokens⟩ := bind_eq_ok_iff.mp htokens
      cases htokens
      obtain ⟨definitions, rfl, hdefines⟩ := ih hothers
      exact ⟨item :: definitions, rfl, .cons (definesFunction_of_item hitem) hdefines⟩

/-- A program is written as the definitions of its functions. -/
theorem GeneratedProgram.exists_definitions [SourceParser] {program : GeneratedProgram}
    {runtimePath : String} {tokens : List Token}
    (htokens : program.tokens runtimePath = .ok tokens) :
    ∃ definitions, tokens = definitions.flatten ∧
      List.Forall₂ DefinesFunction program.functionNames definitions := by
  obtain ⟨-, runtime, items, -, hitems, rfl⟩ := program.exists_tokens_eq htokens
  obtain ⟨definitions, rfl, hdefines⟩ := exists_definitions_of_itemTokens hitems
  let literals := ["r\" Register every compiled route against `router`.\"", "r\"\"",
    "r\" Call once, after all converters and providers are registered.\""]
  let registrar := registrarTokens runtime program.entry id
    (program.calls.flatMap entryCallTokens)
  refine ⟨(literals.flatMap documentation ++ (allowUnused ++ (word "pub" :: registrar))) ::
    definitions, rfl, .cons ⟨literals, [word "pub"], _, rfl⟩ hdefines⟩

/-! ### Identifiers -/

/-- The names of the functions beside the entry point are new and not raw. -/
theorem gives_ofGroups (entry : String) (groups : List RouteGroup) :
    ∃ after, Gives (.ofName entry)
      ((GeneratedProgram.ofGroups entry groups).1.items.map GeneratedItem.name) after :=
  ⟨_, (emits_emitGroups (.ofName entry) "" groups).names⟩

/-- Names that are new behind that of an entry point are the same identifier as the entry point
only when this is raw. -/
theorem Gives.nodup_unraw_iff {entry : String} {given : List String} {after : NameTable}
    (hgives : Gives (.ofName entry) given after) :
    ((entry :: given).map unraw).Nodup ↔ unraw entry = entry ∨ unraw entry ∉ given := by
  obtain ⟨hentry, hgiven⟩ :=
    List.nodup_cons.mp (hgives.nodup_append (List.nodup_singleton entry))
  rw [List.map_cons, hgives.map_unraw, List.nodup_cons]
  constructor
  · rintro ⟨hbare, -⟩
    exact Or.inr hbare
  · rintro (hraw | hbare)
    · exact ⟨hraw.symm ▸ hentry, hgiven⟩
    · exact ⟨hbare, hgiven⟩

/-- A generated file defines the functions of its program one behind the other.  Those beside
the entry point are different identifiers; all of them are exactly when the entry point is not
raw, or no other function has its bare name. -/
theorem functionNames_nodup_iff [SourceParser] {configuration : Configuration}
    {groups : List RouteGroup} {file : GeneratedFile}
    (hgenerate : (generate configuration groups).1 = .ok file) :
    ∃ program definitions,
      program = (GeneratedProgram.ofGroups configuration.entryFunction groups).1 ∧
      file.text = renderFile configuration.entryFunction file.listings
        (spacedText definitions.flatten) ∧
      List.Forall₂ DefinesFunction program.functionNames definitions ∧
      ((program.items.map GeneratedItem.name).map unraw).Nodup ∧
      ((program.functionNames.map unraw).Nodup ↔
        unraw configuration.entryFunction = configuration.entryFunction ∨
          unraw configuration.entryFunction ∉ program.items.map GeneratedItem.name) := by
  obtain ⟨-, tokens, htokens, htext⟩ := generate_ok hgenerate
  obtain ⟨definitions, rfl, hdefines⟩ := GeneratedProgram.exists_definitions htokens
  obtain ⟨after, hgives⟩ := gives_ofGroups configuration.entryFunction groups
  refine ⟨_, definitions, rfl, htext, hdefines, ?_, hgives.nodup_unraw_iff⟩
  rw [hgives.map_unraw]
  exact (List.nodup_cons.mp
    (hgives.nodup_append (List.nodup_singleton configuration.entryFunction))).2

def soleGroupText : String := "#[route_group] pub mod a \x7b\x7d"

section Standard

attribute [local instance] SourceParser.standard

def soleGroupSources : SourceSet :=
  (SourceSet.empty.addText Configuration.standard.modulePath "routes.rs"
    soleGroupText).toOption.getD .empty

/-- The groups that the analysis of these sources gives. -/
def soleGroups : List RouteGroup := (analyze soleGroupSources).result.toOption.getD []

theorem analyze_soleGroup : (analyze soleGroupSources).result = .ok soleGroups := by
  have hok : (analyze soleGroupSources).result.isOk = true := by
    decide +kernel
  exact eq_ok_getD hok []

/-- The standard configuration with another entry point. -/
def entryConfiguration (entry : String) : Configuration :=
  { Configuration.standard with entryFunction := entry }

/-- The program that registers the routes of these groups. -/
def soleProgram (entry : String) : GeneratedProgram :=
  (GeneratedProgram.ofGroups (entryConfiguration entry).entryFunction soleGroups).1

theorem functionNames_nodup_mount :
    (analyze soleGroupSources).result = .ok soleGroups ∧
      (generate (entryConfiguration "r#mount") soleGroups).1.isOk = true ∧
      (soleProgram "r#mount").functionNames = ["r#mount", "register_a"] ∧
      ((soleProgram "r#mount").functionNames.map unraw).Nodup := by
  have hok : (generate (entryConfiguration "r#mount") soleGroups).1.isOk = true := by
    decide +kernel
  have hbare : unraw (entryConfiguration "r#mount").entryFunction ∉
      (soleProgram "r#mount").items.map GeneratedItem.name := by
    decide +kernel
  obtain ⟨program, definitions, hprogram, -, -, -, hdistinct⟩ :=
    functionNames_nodup_iff (eq_ok_getD hok ⟨"", []⟩)
  rw [← soleProgram] at hprogram
  rw [hprogram] at hdistinct
  exact ⟨analyze_soleGroup, hok, by decide +kernel, hdistinct.mpr (Or.inr hbare)⟩

/-- The entry point is raw, and the function of the group has its bare name. -/
theorem functionNames_not_nodup :
    (analyze soleGroupSources).result = .ok soleGroups ∧
      (entryConfiguration "r#register_a").fault? = none ∧
      (generate (entryConfiguration "r#register_a") soleGroups).1.isOk = true ∧
      (soleProgram "r#register_a").functionNames = ["r#register_a", "register_a"] ∧
      ¬ ((soleProgram "r#register_a").functionNames.map unraw).Nodup :=
  ⟨analyze_soleGroup, by decide +kernel, by decide +kernel, by decide +kernel, by decide +kernel⟩

end Standard

end MarkedRoutes
