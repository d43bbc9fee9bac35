import MarkedRoutes.Proofs.Discovery.Independence
import MarkedRoutes.Proofs.Resolution.NamedConverters

/-!
# The order of sources

Sources are analysed together: a module path may be taken by one of them only, and converters
that one implements serve the handlers of all.  Still the order in which they are added makes
no difference.  Every source contributes the groups that it has on its own, given the
converters of all, and these blocks stand in the order of the sources.
-/

namespace MarkedRoutes

open MarkedRoutes.Source (SourceParser)

/-! ### More converters -/

section Mono

variable {converters more : List ConverterDeclaration}

/-- A converter that is found is also found among more converters. -/
theorem valueSource_mono (hsubset : converters ⊆ more) {context : RouteContext}
    {modulePath : String} {parameter : BoundParameter} {source : ValueSource}
    (hsource : valueSource context modulePath converters parameter = .ok source) :
    valueSource context modulePath more parameter = .ok source := by
  rw [valueSource] at hsource ⊢
  split at hsource
  · exact hsource
  · exact hsource
  · exact hsource
  · split at hsource
    · obtain ⟨hsame, declared, hmem, hfits⟩ := namedConverter_eq_ok_iff.mp hsource
      exact namedConverter_eq_ok_iff.mpr ⟨hsame, declared, hsubset hmem, hfits⟩
    · exact hsource

theorem resolveParameter_mono (hsubset : converters ⊆ more) {context : RouteContext}
    {modulePath : String} {bound : BoundParameter} {resolved : ResolvedParameter}
    (hresolve : resolveParameter context modulePath converters bound = .ok resolved) :
    resolveParameter context modulePath more bound = .ok resolved := by
  obtain ⟨source, hsource, rfl⟩ := resolveParameter_ok hresolve
  rw [resolveParameter, valueSource_mono hsubset hsource]
  rfl

theorem resolveParameters_mono (hsubset : converters ⊆ more) {context : RouteContext}
    {modulePath : String} {bound : List BoundParameter} {resolved : List ResolvedParameter}
    (hresolve : resolveParameters context modulePath converters bound = .ok resolved) :
    resolveParameters context modulePath more bound = .ok resolved := by
  refine resolveParameters_of_forall₂ ((resolveParameters_ok hresolve).imp ?_)
  intro entry parameter hfirst
  exact resolveParameter_mono hsubset hfirst

/-- A handler that compiles also compiles among more converters, to the same route. -/
theorem compileHandler_mono (hsubset : converters ⊆ more) {modulePath : String}
    {handler : DiscoveredHandler} {route : Route}
    (hcompile : compileHandler converters modulePath handler = .ok route) :
    compileHandler more modulePath handler = .ok route := by
  rw [compileHandler] at hcompile ⊢
  split at hcompile
  · cases hcompile
  · split at hcompile
    · cases hcompile
    · obtain ⟨bound, hbind, hcompile⟩ := bind_eq_ok_iff.mp hcompile
      obtain ⟨parameters, hresolve, hcompile⟩ := bind_eq_ok_iff.mp hcompile
      exact bind_eq_ok_iff.mpr
        ⟨bound, hbind,
          bind_eq_ok_iff.mpr ⟨parameters, resolveParameters_mono hsubset hresolve, hcompile⟩⟩

theorem compileHandlers_mono (hsubset : converters ⊆ more) {modulePath : String}
    {handlers : List DiscoveredHandler}
    (hclean : (compileHandlers converters modulePath handlers).2 = []) :
    compileHandlers more modulePath handlers = compileHandlers converters modulePath handlers := by
  induction handlers with
  | nil => rfl
  | cons handler handlers ih =>
      rw [compileHandlers] at hclean
      dsimp only at hclean
      split at hclean
      · next route hroute =>
        rw [compileHandlers, compileHandlers, ih hclean, compileHandler_mono hsubset hroute, hroute]
      · cases hclean

mutual

/-- A group that compiles without reports also does so among more converters, to the same. -/
theorem compileGroup_mono (hsubset : converters ⊆ more) : ∀ group : DiscoveredGroup,
    (compileGroup converters group).2 = [] →
    compileGroup more group = compileGroup converters group
  | ⟨name, modulePath, base, handlers, groups, location⟩ => by
      intro hclean
      rw [compileGroup] at hclean
      obtain ⟨hown, hinner⟩ := List.append_eq_nil_iff.mp hclean
      rw [compileGroup, compileGroup, compileHandlers_mono hsubset hown,
        compileGroups_mono hsubset groups hinner]

/-- Groups that compile without reports also do so among more converters, to the same. -/
theorem compileGroups_mono (hsubset : converters ⊆ more) : ∀ groups : List DiscoveredGroup,
    (compileGroups converters groups).2 = [] →
    compileGroups more groups = compileGroups converters groups
  | [] => fun _ => rfl
  | first :: rest => by
      intro hclean
      rw [compileGroups] at hclean
      obtain ⟨hown, hothers⟩ := List.append_eq_nil_iff.mp hclean
      rw [compileGroups, compileGroups, compileGroup_mono hsubset first hown,
        compileGroups_mono hsubset rest hothers]

end

end Mono

/-! ### Blocks of groups -/

namespace SourceUnit

/-- The groups of a unit as they compile with some converters, and what is reported. -/
def compiled (converters : List ConverterDeclaration) (unit : SourceUnit) :
    List RouteGroup × List Diagnostic :=
  compileGroups converters unit.discovered.1

end SourceUnit

theorem compileGroups_flatMap (converters : List ConverterDeclaration) (units : List SourceUnit) :
    compileGroups converters (units.flatMap fun unit => unit.discovered.1) =
      (units.flatMap fun unit => (unit.compiled converters).1,
        units.flatMap fun unit => (unit.compiled converters).2) := by
  induction units with
  | nil => rfl
  | cons unit units ih =>
      rw [List.flatMap_cons, compileGroups_append, ih, List.flatMap_cons, List.flatMap_cons]
      rfl

/-- An analysis succeeds when the units are discovered without reports and each compiles without
reports; then its groups are those of the units, one block behind the other. -/
theorem analyze_eq_ok_iff {units : List SourceUnit} {converters : List ConverterDeclaration}
    {groups : List RouteGroup} :
    (analyze ⟨units, converters⟩).result = .ok groups ↔
      (discoverUnits .empty units).2.diagnostics = [] ∧
        (∀ unit ∈ units, (unit.compiled converters).2 = []) ∧
        groups = units.flatMap fun unit => (unit.compiled converters).1 := by
  rw [analyze]
  dsimp only
  constructor
  · intro hresult
    split at hresult
    · next hclean =>
      obtain ⟨hdiscovered, hcompiled⟩ := List.append_eq_nil_iff.mp hclean
      cases hresult
      have hfound := (discovered_of_clean hdiscovered).2
      rw [discover, hfound, compileGroups_flatMap] at hcompiled ⊢
      exact ⟨hdiscovered, List.flatMap_eq_nil_iff.mp hcompiled, rfl⟩
    · cases hresult
  · rintro ⟨hdiscovered, hcompiled, rfl⟩
    have hfound := (discovered_of_clean hdiscovered).2
    rw [discover, hfound, compileGroups_flatMap, hdiscovered,
      List.flatMap_eq_nil_iff.mpr hcompiled]
    rfl

/-! ### Other orders -/

/-- The analysis of units in another order, with the converters in another order. -/
theorem analyze_of_perm {units others : List SourceUnit}
    {converters reordered : List ConverterDeclaration} {groups : List RouteGroup}
    (hunits : units.Perm others) (hconverters : converters.Perm reordered)
    (hanalyze : (analyze ⟨units, converters⟩).result = .ok groups) :
    (analyze ⟨others, reordered⟩).result =
      .ok (others.flatMap fun unit => (unit.compiled converters).1) := by
  obtain ⟨hdiscovered, hcompiled, -⟩ := analyze_eq_ok_iff.mp hanalyze
  have hsame : ∀ unit ∈ others, unit.compiled reordered = unit.compiled converters :=
    fun unit hunit =>
      compileGroups_mono hconverters.subset _ (hcompiled unit (hunits.mem_iff.mpr hunit))
  refine analyze_eq_ok_iff.mpr ⟨discoverUnits_clean_of_perm hunits hdiscovered, ?_, ?_⟩
  · intro unit hunit
    rw [hsame unit hunit]
    exact hcompiled unit (hunits.mem_iff.mpr hunit)
  · exact List.flatMap_congr fun unit hunit => by rw [hsame unit hunit]

/-- Every unit of sources that are analysed without reports is so on its own, given the
converters of all. -/
theorem analyze_alone {units : List SourceUnit} {converters : List ConverterDeclaration}
    {groups : List RouteGroup} (hanalyze : (analyze ⟨units, converters⟩).result = .ok groups)
    {unit : SourceUnit} (hunit : unit ∈ units) :
    (analyze ⟨[unit], converters⟩).result = .ok (unit.compiled converters).1 := by
  obtain ⟨hdiscovered, hcompiled, -⟩ := analyze_eq_ok_iff.mp hanalyze
  obtain ⟨halone, hnodup⟩ := discoverUnits_clean_iff.mp hdiscovered
  refine analyze_eq_ok_iff.mpr ⟨discoverUnits_clean_iff.mpr ⟨?_, ?_⟩, ?_, ?_⟩
  · exact List.forall_mem_singleton.mpr (halone unit hunit)
  · rw [List.flatMap_singleton]
    exact (List.nodup_flatMap.mp hnodup).1 unit hunit
  · exact List.forall_mem_singleton.mpr (hcompiled unit hunit)
  · rw [List.flatMap_singleton]

/-! ### Texts -/

section Texts

variable [SourceParser]

namespace SourceText

def load (text : SourceText) : Except (List Diagnostic) LoadedSource :=
  loadSource text.modulePath text.file text.content

/-- The groups that a text has on its own when some converters are known. -/
def Gives (converters : List ConverterDeclaration) (text : SourceText)
    (groups : List RouteGroup) : Prop :=
  ∃ loaded, text.load = .ok loaded ∧ (analyze ⟨[loaded.unit], converters⟩).result = .ok groups

end SourceText

/-- The texts that can be read, as they are read. -/
def loadedSources (texts : List SourceText) : List LoadedSource :=
  texts.filterMap fun text => text.load.toOption

def SourceSet.ofTexts (texts : List SourceText) : SourceSet :=
  ⟨(loadedSources texts).map LoadedSource.unit,
    (loadedSources texts).flatMap LoadedSource.converters⟩

theorem SourceSet.addText_ofTexts {texts : List SourceText} {text : SourceText}
    (hload : text.load.isOk = true) :
    (SourceSet.ofTexts texts).addText text.modulePath text.file text.content =
      .ok (.ofTexts (texts ++ [text])) := by
  obtain ⟨loaded, hloaded⟩ := isOk_eq_true_iff.mp hload
  have hread : loadSource text.modulePath text.file text.content = .ok loaded := hloaded
  rw [addText, hread, ofTexts, ofTexts, loadedSources, loadedSources, List.filterMap_append,
    List.filterMap_cons, hloaded]
  simp [Except.map, Except.toOption, add]

/-- Texts that load without reports can be added one after another. -/
theorem SourceSet.isReadFrom_ofTexts {texts : List SourceText}
    (hload : ∀ text ∈ texts, text.load.isOk = true) :
    (SourceSet.ofTexts texts).IsReadFrom texts := by
  induction texts using List.reverseRecOn with
  | nil => exact .empty
  | append_singleton texts text ih =>
      rw [List.forall_mem_append, List.forall_mem_singleton] at hload
      exact .addText (ih hload.1) (addText_ofTexts hload.2)

theorem SourceSet.IsReadFrom.eq_ofTexts {texts : List SourceText} {sources : SourceSet}
    (hread : sources.IsReadFrom texts) : sources = .ofTexts texts := by
  induction hread with
  | empty => rfl
  | @addText texts text sources extended _ hadd ih =>
      subst ih
      have hload : text.load.isOk = true := by
        rw [← isOk_map (SourceSet.ofTexts texts).add]
        exact isOk_eq_true_iff.mpr ⟨extended, hadd⟩
      exact Except.ok.inj (hadd.symm.trans (SourceSet.addText_ofTexts hload))

namespace SourceText

/-- The groups of a text as they compile with some converters. -/
def block (converters : List ConverterDeclaration) (text : SourceText) : List RouteGroup :=
  text.load.toOption.toList.flatMap fun loaded => (loaded.unit.compiled converters).1

theorem gives_block {texts : List SourceText} {converters : List ConverterDeclaration}
    {groups : List RouteGroup}
    (hanalyze : (analyze ⟨(SourceSet.ofTexts texts).units, converters⟩).result = .ok groups)
    {text : SourceText} (htext : text ∈ texts) (hload : text.load.isOk = true) :
    text.Gives converters (text.block converters) := by
  obtain ⟨loaded, hloaded⟩ := isOk_eq_true_iff.mp hload
  have hunit : loaded.unit ∈ (SourceSet.ofTexts texts).units :=
    List.mem_map_of_mem (List.mem_filterMap.mpr ⟨text, htext, by rw [hloaded]; rfl⟩)
  have hblock : text.block converters = (loaded.unit.compiled converters).1 := by
    rw [block, hloaded]
    exact List.flatMap_singleton ..
  refine ⟨loaded, hloaded, ?_⟩
  rw [hblock]
  exact analyze_alone hanalyze hunit

end SourceText

theorem flatMap_units_ofTexts (converters : List ConverterDeclaration) (texts : List SourceText) :
    ((SourceSet.ofTexts texts).units.flatMap fun unit => (unit.compiled converters).1) =
      texts.flatMap (SourceText.block converters) := by
  rw [SourceSet.ofTexts, List.flatMap_map, loadedSources]
  induction texts with
  | nil => rfl
  | cons text texts ih =>
      rw [List.filterMap_cons, List.flatMap_cons, SourceText.block, ← ih]
      cases text.load.toOption <;> simp

/-- Sources that were read from texts and from the same texts in another order are analysed
alike: with success or without, and on success every text gives a block of groups in both,
in the order of the texts. -/
structure AnalysedAlike (texts others : List SourceText) (sources reordered : SourceSet) :
    Prop where
  isOk_eq : (analyze sources).result.isOk = (analyze reordered).result.isOk
  model : ∀ groups, (analyze sources).result = .ok groups →
    ∃ block : SourceText → List RouteGroup,
      (∀ text ∈ texts, text.Gives sources.converters (block text)) ∧
        groups = texts.flatMap block ∧
        (analyze reordered).result = .ok (others.flatMap block)

/-- An analysis that succeeds also succeeds with the texts in another order. -/
theorem analyze_reordered {texts others : List SourceText} (hperm : texts.Perm others)
    {groups : List RouteGroup} (hanalyze : (analyze (.ofTexts texts)).result = .ok groups) :
    (analyze (.ofTexts others)).result =
      .ok (others.flatMap (SourceText.block (SourceSet.ofTexts texts).converters)) := by
  have hloaded := hperm.filterMap fun text : SourceText => text.load.toOption
  have hreordered := analyze_of_perm (hloaded.map LoadedSource.unit)
    (hloaded.flatMap_right LoadedSource.converters) hanalyze
  rwa [← flatMap_units_ofTexts]

/-- When every text loads without reports, the texts can be added in every order, and every order
gives the same groups up to the order of the texts' blocks, or reports in every order. -/
theorem analysedAlike_of_perm {texts others : List SourceText} (hperm : texts.Perm others)
    (hload : ∀ text ∈ texts, text.load.isOk = true) :
    (∃ sources : SourceSet, sources.IsReadFrom texts) ∧
      (∃ reordered : SourceSet, reordered.IsReadFrom others) ∧
      ∀ sources reordered : SourceSet, sources.IsReadFrom texts → reordered.IsReadFrom others →
        AnalysedAlike texts others sources reordered := by
  refine ⟨⟨_, SourceSet.isReadFrom_ofTexts hload⟩, ⟨_, SourceSet.isReadFrom_ofTexts ?_⟩, ?_⟩
  · exact fun text htext => hload text (hperm.mem_iff.mpr htext)
  · intro sources reordered hread hreread
    rw [hread.eq_ofTexts, hreread.eq_ofTexts]
    constructor
    · rw [Bool.eq_iff_iff, isOk_eq_true_iff, isOk_eq_true_iff]
      constructor
      · rintro ⟨groups, hanalyze⟩
        exact ⟨_, analyze_reordered hperm hanalyze⟩
      · rintro ⟨groups, hanalyze⟩
        exact ⟨_, analyze_reordered hperm.symm hanalyze⟩
    · intro groups hanalyze
      refine ⟨SourceText.block (SourceSet.ofTexts texts).converters, ?_, ?_,
        analyze_reordered hperm hanalyze⟩
      · exact fun text htext => SourceText.gives_block hanalyze htext (hload text htext)
      · rw [← flatMap_units_ofTexts]
        exact (analyze_eq_ok_iff.mp hanalyze).2.2

end Texts

section Standard

attribute [local instance] SourceParser.standard

/-- A converter of days, and a group beside it. -/
def daysText : SourceText where
  modulePath := "crate::days"
  file := "days.rs"
  content := "pub struct Days; impl Converter<Day> for Days \x7b\x7d " ++
    "#[route_group(\"/today\")] pub mod today \x7b #[get] pub fn show() \x7b\x7d \x7d"

/-- A group with a handler that names the converter of days. -/
def visitsText : SourceText where
  modulePath := "crate::routes"
  file := "routes.rs"
  content := "#[route_group(\"/visits\")] pub mod visits \x7b #[get(\"/\x7bday\x7d\")] " ++
    "pub fn list(#[convert(crate::days::Days)] day: Day) \x7b\x7d \x7d"

theorem analysedAlike_visits :
    [daysText, visitsText].Perm [visitsText, daysText] ∧
      (∀ text ∈ [daysText, visitsText], text.load.isOk = true) ∧
      (analyze (.ofTexts [daysText, visitsText])).result.isOk = true ∧
      AnalysedAlike [daysText, visitsText] [visitsText, daysText]
        (.ofTexts [daysText, visitsText]) (.ofTexts [visitsText, daysText]) := by
  have hperm : [daysText, visitsText].Perm [visitsText, daysText] := .swap _ _ _
  have hload : ∀ text ∈ [daysText, visitsText], text.load.isOk = true := by
    have hdays : daysText.load.isOk = true := by
      decide +kernel
    have hvisits : visitsText.load.isOk = true := by
      decide +kernel
    exact List.forall_mem_cons.mpr ⟨hdays, List.forall_mem_singleton.mpr hvisits⟩
  refine ⟨hperm, hload, by decide +kernel, ?_⟩
  refine (analysedAlike_of_perm hperm hload).2.2 _ _ (SourceSet.isReadFrom_ofTexts hload)
    (SourceSet.isReadFrom_ofTexts ?_)
  exact fun text htext => hload text (hperm.mem_iff.mpr htext)

end Standard

end MarkedRoutes
