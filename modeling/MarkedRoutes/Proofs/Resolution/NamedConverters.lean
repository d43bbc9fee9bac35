import MarkedRoutes.Compiler
import MarkedRoutes.Proofs.Resolution.PathText
import MarkedRoutes.Proofs.Resolution.ScannedConverters
import MarkedRoutes.Proofs.Source.DeclaredNames
import MarkedRoutes.Proofs.Source.PlainPath

/-!
# Named converters

A parameter names its converter by a path, and the path is compared as a text with those of
the implementations that were scanned.  Modules are filed without the marks of raw
identifiers, but the path of a marker and the type of an implementation keep theirs.  So a
legal path is understood exactly when the names behind its first words are written as they
are filed.
-/

namespace MarkedRoutes

open MarkedRoutes.Source
open MarkedRoutes.Text (ColonFree joinTexts)

/-! ### Names of modules -/

theorem unraw_eq_of_isBareName {name : String} (hname : isBareName name = true) :
    unraw name = name := by
  rw [isBareName] at hname
  cases hchars : name.toList with
  | nil =>
      rw [hchars] at hname
      cases hname
  | cons first rest =>
      rw [hchars, Text.isIdentifierText, Bool.and_eq_true] at hname
      rw [← String.ofList_toList (s := name), hchars]
      exact Lexeme.unraw_of_all_continue hname.2

theorem colon_notMem_of_isBareName {name : String} (hname : isBareName name = true) :
    ':' ∉ name.toList :=
  notMem_of_isBareName hname (by decide) (by decide)

/-- The path of a module inside others, outermost first. -/
theorem foldl_childPath {around : List String} (haround : around ≠ []) (names : List String) :
    names.foldl childPath (joinTexts "::" around) = joinTexts "::" (around ++ names) := by
  induction names generalizing around with
  | nil => rw [List.foldl_nil, List.append_nil]
  | cons name names ih =>
      have hchild : childPath (joinTexts "::" around) name = joinTexts "::" (around ++ [name]) := by
        rw [joinTexts_append (List.cons_ne_nil name []) haround, childPath, joinTexts,
          ← String.toList_inj]
        simp [Text.join]
      rw [List.foldl_cons, hchild, ih (List.append_ne_nil_of_right_ne_nil _ (List.cons_ne_nil _ _)),
        List.append_assoc]
      rfl

/-! ### Declared converters -/

namespace Source

def Item.isStruct (name : String) : Item → Bool
  | .named .structType _ _ declared _ => declared == name
  | _ => false

def Path.isConverterTo (target : String) (interface : Path) : Bool :=
  match interface.segments.getLast? with
  | some (.mk "Converter" (some arguments)) =>
    arguments.types.map TypeExpr.canonical == [target]
  | _ => false

def Item.implementsConverter (type target : String) : Item → Bool
  | .implementation _ _ (some interface) subject =>
    subject.canonical == type && interface.path.isConverterTo target
  | _ => false

end Source

/-- A struct and an implementation of `Converter<target>` for it stand among items.  The
implementation writes the struct's name as `written`, perhaps as a raw identifier. -/
structure DeclaresConverter (items : List Item) (written target : String) : Prop where
  isName : IsPathName written
  isStruct : items.any (Item.isStruct (unraw written)) = true
  implements : items.any (Item.implementsConverter written target) = true

theorem converterOfImplementation?_eq {file modulePath target : String} {line : ℕ}
    {interface : ImplementedInterface} {subject : TypeExpr}
    (hconverter : interface.path.isConverterTo target = true) :
    converterOfImplementation? file modulePath line interface subject =
      some ⟨subject.canonical, target, modulePath, ⟨file, line⟩⟩ := by
  rw [Path.isConverterTo] at hconverter
  split at hconverter
  · next arguments hlast =>
    rw [converterOfImplementation?, hlast]
    cases htypes : arguments.types with
    | nil =>
        rw [htypes] at hconverter
        cases hconverter
    | cons type types =>
        rw [htypes, List.map_cons, beq_iff_eq, List.cons.injEq, List.map_eq_nil_iff] at hconverter
        obtain ⟨rfl, rfl⟩ := hconverter
        simp only [htypes]
  · cases hconverter

/-- A converter that is declared in a module was scanned there. -/
theorem DeclaresConverter.exists_implements {written target : String} {items content : List Item}
    {names : List String} (hleads : LeadsInto items names content)
    (hconverter : DeclaresConverter content written target) (file modulePath : String) :
    ∃ location, Implements file modulePath items
      ⟨written, target, names.foldl childPath modulePath, location⟩ := by
  obtain ⟨item, hmem, hitem⟩ := List.any_eq_true.mp hconverter.implements
  rw [Item.implementsConverter.eq_def] at hitem
  split at hitem
  · next attributes line interface subject =>
    rw [Bool.and_eq_true, beq_iff_eq] at hitem
    refine ⟨⟨file, line⟩, names, content, attributes, line, interface, subject, hleads, hmem, ?_⟩
    rw [converterOfImplementation?_eq hitem.2, hitem.1]
  · cases hitem

/-! ### Spellings -/

/-- A path as it is written in a marker: first words, and the names behind them. -/
structure Spelling where
  lead : PathLead
  names : List String

namespace Spelling

def path (spelling : Spelling) : Path := .ofNames (spelling.lead.words ++ spelling.names)

/-- In the module `around` a spelling is a legal path to `target`, both given by their names from
the outermost module.  Names that are raw identifiers are the same as without their marks. -/
structure Means (spelling : Spelling) (around target : List String) : Prop where
  ne_nil : spelling.names ≠ []
  isName : ∀ name ∈ spelling.names, IsPathName name
  fits : spelling.lead.FitsIn around
  same : (spelling.lead.reached around ++ spelling.names).map unraw = target.map unraw

end Spelling

/-- Beginnings of two paths that are the same but for raw marks are equal when the names behind
the shared ones have no such marks. -/
theorem take_append_eq_of_map_unraw {shared outer inner : List String} {count : ℕ}
    (houter : ∀ name ∈ outer, unraw name = name) (hinner : ∀ name ∈ inner, unraw name = name)
    (hsame : ((shared ++ outer).take count).map unraw = ((shared ++ inner).take count).map unraw) :
    (shared ++ outer).take count = (shared ++ inner).take count := by
  have hplain : ∀ {names : List String}, (∀ name ∈ names, unraw name = name) → ∀ count,
      (names.take count).map unraw = names.take count := fun hnames count =>
    (List.map_congr_left fun name hmem => hnames name (List.mem_of_mem_take hmem)).trans
      (List.map_id' _)
  rw [List.take_append, List.take_append, List.map_append, List.map_append, hplain houter,
    hplain hinner, List.append_cancel_left_eq] at hsame
  rw [List.take_append, List.take_append, hsame]

/-- The names of a legal path are those of its target exactly when the names behind its first
words are written like the last ones of the target. -/
theorem Spelling.Means.reached_append_eq_iff {spelling : Spelling} {mount outer inner : List String}
    {written : String} (houter : ∀ name ∈ outer, unraw name = name)
    (hinner : ∀ name ∈ inner, unraw name = name)
    (hmeans : spelling.Means ("crate" :: mount ++ outer) ("crate" :: mount ++ inner ++ [written])) :
    spelling.lead.reached ("crate" :: mount ++ outer) ++ spelling.names =
        "crate" :: mount ++ inner ++ [written] ↔
      spelling.names <:+ "crate" :: mount ++ inner ++ [written] := by
  constructor
  · intro hequal
    exact ⟨_, hequal⟩
  · rintro ⟨front, hfront⟩
    have hsame := hmeans.same
    rw [← hfront, List.map_append, List.map_append, List.append_cancel_right_eq] at hsame
    have hlength : (spelling.lead.reached ("crate" :: mount ++ outer)).length = front.length := by
      simpa using congrArg List.length hsame
    have hshort : front.length ≤ ("crate" :: mount ++ inner).length := by
      have hpositive := List.length_pos_of_ne_nil hmeans.ne_nil
      have htotal := congrArg List.length hfront
      simp only [List.length_append, List.length_singleton] at htotal ⊢
      omega
    have htake : front = ("crate" :: mount ++ inner).take front.length := by
      rw [← List.take_append_of_le_length hshort, ← hfront, List.take_left]
    suffices hfronts : spelling.lead.reached ("crate" :: mount ++ outer) = front by
      rw [hfronts, hfront]
    cases hlead : spelling.lead with
    | crate =>
        rw [hlead] at hlength
        rw [htake, ← hlength]
        rfl
    | inside stays climbs =>
        rw [hlead, PathLead.reached] at hsame hlength
        rw [htake] at hsame
        rw [List.length_take_of_le (Nat.sub_le _ _)] at hlength
        rw [PathLead.reached, htake, hlength]
        rw [hlength] at hsame
        exact take_append_eq_of_map_unraw houter hinner hsame

/-! ### Resolution -/

theorem ValueType.base_ofType (type : TypeExpr) :
    (ValueType.ofType type).base = (type.optionValue?.getD type).canonical := by
  rw [ValueType.ofType]
  cases type.optionValue? <;> rfl

/-- Values of kinds that are converted come from the converter that the parameter names. -/
theorem valueSource_eq_namedConverter {context : RouteContext} {modulePath path : String}
    {converters : List ConverterDeclaration} {entry : BoundParameter}
    (hconverter : entry.converter = some path)
    (hkind : entry.kind = .path ∨ entry.kind = .query ∨ entry.kind = .header) :
    valueSource context modulePath converters entry =
      namedConverter context modulePath entry path converters := by
  rw [valueSource]
  rcases hkind with hkind | hkind | hkind <;> rw [hkind, hconverter]

theorem namedConverter_of_valueSource {context : RouteContext} {modulePath path : String}
    {converters : List ConverterDeclaration} {entry : BoundParameter}
    (hsource : valueSource context modulePath converters entry = .ok (.namedConverter path)) :
    ∃ written, namedConverter context modulePath entry written converters =
      .ok (.namedConverter path) := by
  rw [valueSource] at hsource
  split at hsource
  · cases hsource
  · cases hsource
  · cases hsource
  · split at hsource
    · next written _ => exact ⟨written, hsource⟩
    · cases hsource

/-- A named converter is found exactly when some implementation has its path and converts to the
type of the parameter's values. -/
theorem namedConverter_eq_ok_iff {context : RouteContext} {modulePath written : String}
    {parameter : BoundParameter} {converters : List ConverterDeclaration} {source : ValueSource} :
    namedConverter context modulePath parameter written converters = .ok source ↔
      source = .namedConverter (absolutePath modulePath written) ∧
        ∃ declared ∈ converters,
          absolutePath declared.modulePath declared.converter = absolutePath modulePath written ∧
            sameType declared.target parameter.type.base = true := by
  rw [namedConverter]
  split_ifs with hempty hany
  · refine iff_of_false nofun ?_
    rintro ⟨-, declared, hmem, hpath, -⟩
    rw [List.isEmpty_iff, List.filter_eq_nil_iff] at hempty
    exact hempty declared hmem (decide_eq_true hpath)
  · obtain ⟨declared, hmem, htype⟩ := List.any_eq_true.mp hany
    obtain ⟨hmem, hpath⟩ := List.mem_filter.mp hmem
    constructor
    · intro hsource
      cases hsource
      exact ⟨rfl, declared, hmem, of_decide_eq_true hpath, htype⟩
    · rintro ⟨rfl, -⟩
      rfl
  · refine iff_of_false nofun ?_
    rintro ⟨-, declared, hmem, hpath, htype⟩
    exact hany (List.any_eq_true.mpr
      ⟨declared, List.mem_filter.mpr ⟨hmem, decide_eq_true hpath⟩, htype⟩)

def Source.Parameter.NamesConverter [SourceParser] (parameter : Parameter) (path : Path) : Prop :=
  ∃ marked ∈ parameter.attributes, ∃ tokens, marked.name = "convert" ∧
    marked.input = .list tokens ∧ SourceParser.path tokens = .ok (path, [])

theorem Source.Parameter.NamesConverter.mem_markers [SourceParser] {parameter : Parameter}
    {path : Path} (hnames : parameter.NamesConverter path) :
    .convert path.canonical ∈ goodMarkers parameterMarker? parameter.attributes := by
  obtain ⟨marked, hmem, tokens, hname, hinput, hread⟩ := hnames
  refine List.mem_filterMap.mpr ⟨marked, hmem, ?_⟩
  have harguments : requiredArguments marked = .ok tokens := by
    rw [requiredArguments, hinput]
  have hpath : readConverterPath tokens = .ok path.canonical := by
    rw [readConverterPath, hread]
  have hmarker : parameterMarker? marked = some (.ok (.convert path.canonical)) := by
    rw [parameterMarker?, hname]
    simp only [harguments]
    exact congrArg (fun result => some (Except.map ParameterMarker.convert result)) hpath
  rw [hmarker]

def Source.Parameter.IsBoundBy [SourceParser] (parameter : Parameter) (context : RouteContext)
    (entry : BoundParameter) : Prop :=
  ∃ signature entries, ∃ position : ℕ,
    bindParameters context (.ofSignature signature) = .ok entries ∧
      signature.parameters[position]? = some parameter ∧ entries[position]? = some entry

/-- A bound parameter keeps the path of its converter, and only kinds that are converted do. -/
theorem Source.Parameter.IsBoundBy.converter [SourceParser] {context : RouteContext}
    {parameter : Parameter} {entry : BoundParameter} {path : Path}
    (hbound : parameter.IsBoundBy context entry)
    (hnames : parameter.NamesConverter path) :
    entry.converter = some path.canonical ∧ entry.type = .ofType parameter.type ∧
      (entry.kind = .path ∨ entry.kind = .query ∨ entry.kind = .header) := by
  obtain ⟨signature, entries, position, hbind, hparameter, hentry⟩ := hbound
  have hdeclared : (HandlerSignature.ofSignature signature).parameters[position]? =
      some ⟨parameter.name, parameter.type, position,
        goodMarkers parameterMarker? parameter.attributes⟩ := by
    rw [HandlerSignature.ofSignature, List.getElem?_mapIdx, hparameter]
    rfl
  have hsound := (soundEntry_of_bindParameters hbind).2 position _ entry hdeclared hentry
  obtain ⟨-, candidates, hparameters, hconsistent, hbinds⟩ :=
    bindParameters_ok (positions_increase signature) hbind
  have hconverter : entry.converter = some path.canonical := by
    obtain ⟨candidate, hcandidate, hbound⟩ := getElem?_of_forall₂ hbinds.each hentry
    rw [← hparameters, List.getElem?_map, hcandidate] at hdeclared
    have hmarkers : .convert path.canonical ∈ candidate.parameter.markers := by
      rw [Option.some.inj hdeclared]
      exact hnames.mem_markers
    have hmem : path.canonical ∈
        candidate.parameter.markers.filterMap ParameterMarker.converter? :=
      List.mem_filterMap.mpr ⟨_, hmarkers, rfl⟩
    rw [(hconsistent candidate (List.mem_of_getElem? hcandidate)).converters,
      Option.mem_toList] at hmem
    rw [hbound.eq_bind]
    exact hmem
  refine ⟨hconverter, hsound.type_eq, hsound.converter ?_⟩
  rw [hconverter]
  exact Option.some_ne_none _

/-! ### Paths of sources -/

/-- A text holds some items and stands in a module below the outermost one. -/
structure SourceText.Holds [SourceParser] (text : SourceText) (mount : List String)
    (items : List Item) :
    Prop where
  reads : SourceParser.file text.content = .ok items
  mounted : text.modulePath = joinTexts "::" ("crate" :: mount)
  colonFree : ColonFree (mount.map String.toList)

section Paths

variable {text : SourceText} {mount names : List String} {items content : List Item}

theorem SourceText.Holds.modulePath_eq [SourceParser] (hholds : text.Holds mount items)
    (names : List String) :
    names.foldl childPath text.modulePath = joinTexts "::" ("crate" :: mount ++ names) := by
  rw [hholds.mounted, foldl_childPath (List.cons_ne_nil _ _)]

theorem SourceText.Holds.isBareName [SourceParser] (hbare : DeclaresBareNames)
    (hholds : text.Holds mount items) (hleads : LeadsInto items names content) :
    ∀ name ∈ names, isBareName name = true :=
  hleads.isBareName (hbare _ _ hholds.reads)

theorem SourceText.Holds.colonFree_append [SourceParser] (hbare : DeclaresBareNames)
    (hholds : text.Holds mount items) (hleads : LeadsInto items names content) :
    ColonFree (("crate" :: mount ++ names).map String.toList) := by
  rw [List.map_append, List.map_cons]
  refine ColonFree.append ?_ (List.forall_mem_map.mpr fun name hmem =>
    colon_notMem_of_isBareName (hholds.isBareName hbare hleads name hmem))
  exact List.forall_mem_cons.mpr ⟨by decide, hholds.colonFree⟩

end Paths

theorem Spelling.Means.canonical_path {spelling : Spelling} {around target : List String}
    (hmeans : spelling.Means around target) :
    spelling.path.canonical = joinTexts "::" (spelling.lead.words ++ spelling.names) := by
  have hwords : ∀ word ∈ ["crate", "self", "super"], ∀ c ∈ word.toList,
      Text.isBlank c = false := by
    simp [Text.isBlank]
  refine Path.canonical_ofNames (List.append_ne_nil_of_right_ne_nil _ hmeans.ne_nil) ?_
  intro name hname
  rcases List.mem_append.mp hname with hword | hname
  · exact hwords name (spelling.lead.words_subset hword)
  · exact (hmeans.isName name hname).blank_notMem

/-- A legal path becomes the text of its target exactly when the names behind its first words are
written like the last ones of the target. -/
theorem Spelling.Means.absolutePath_eq_iff {spelling : Spelling} {mount outer inner : List String}
    {written : String} (houter : ∀ name ∈ outer, unraw name = name)
    (hinner : ∀ name ∈ inner, unraw name = name)
    (haround : ColonFree (("crate" :: mount ++ outer).map String.toList))
    (htarget : ColonFree (("crate" :: mount ++ inner ++ [written]).map String.toList))
    (hmeans : spelling.Means ("crate" :: mount ++ outer) ("crate" :: mount ++ inner ++ [written])) :
    absolutePath (joinTexts "::" ("crate" :: mount ++ outer)) spelling.path.canonical =
        joinTexts "::" ("crate" :: mount ++ inner ++ [written]) ↔
      spelling.names <:+ "crate" :: mount ++ inner ++ [written] := by
  have hreached : ColonFree ((spelling.lead.reached ("crate" :: mount ++ outer) ++
      spelling.names).map String.toList) := by
    rw [List.map_append]
    exact (spelling.lead.colonFree_reached haround).append
      (colonFree_of_isPathName hmeans.isName)
  rw [hmeans.canonical_path,
    absolutePath_joinTexts _ haround hmeans.fits hmeans.ne_nil hmeans.isName,
    joinTexts_inj (List.append_ne_nil_of_right_ne_nil _ hmeans.ne_nil)
      (List.append_ne_nil_of_right_ne_nil _ (List.cons_ne_nil _ _)) hreached htarget,
    hmeans.reached_append_eq_iff houter hinner]

section Sources

variable {texts : List SourceText} {sources : SourceSet}

/-- A parameter whose converter a path legally names gets that converter exactly when the path is
written as the converter is filed. -/
theorem Spelling.Means.valueSource_eq_iff [SourceParser] (hbare : DeclaresBareNames)
    {spelling : Spelling} {text : SourceText} {mount inner outer : List String}
    {items content members : List Item} {written target : String}
    (hmeans : spelling.Means ("crate" :: mount ++ outer) ("crate" :: mount ++ inner ++ [written]))
    (hread : sources.IsReadFrom texts) (htext : text ∈ texts) (hholds : text.Holds mount items)
    (hinner : LeadsInto items inner content) (houter : LeadsInto items outer members)
    (hconverter : DeclaresConverter content written target)
    {context : RouteContext} {parameter : Parameter} {entry : BoundParameter}
    (hbound : parameter.IsBoundBy context entry)
    (htype : (parameter.type.optionValue?.getD parameter.type).canonical = target)
    (hnames : parameter.NamesConverter spelling.path) :
    valueSource context (outer.foldl childPath text.modulePath) sources.converters entry =
        .ok (.namedConverter (childPath (inner.foldl childPath text.modulePath) written)) ↔
      spelling.names <:+ "crate" :: mount ++ inner ++ [written] := by
  obtain ⟨hpath, hentryType, hkind⟩ := hbound.converter hnames
  have hmodule := hholds.colonFree_append hbare hinner
  have htarget : ColonFree (("crate" :: mount ++ inner ++ [written]).map String.toList) := by
    rw [List.map_append]
    exact hmodule.append
      (colonFree_of_isPathName (List.forall_mem_singleton.mpr hconverter.isName))
  have hfiled : childPath (inner.foldl childPath text.modulePath) written =
      joinTexts "::" ("crate" :: mount ++ inner ++ [written]) := by
    rw [List.append_assoc, ← hholds.modulePath_eq, List.foldl_append]
    rfl
  have himplemented : absolutePath (inner.foldl childPath text.modulePath) written =
      joinTexts "::" ("crate" :: mount ++ inner ++ [written]) := by
    rw [hholds.modulePath_eq]
    exact absolutePath_name (List.cons_ne_nil _ _) hmodule hconverter.isName
  have hwritten := hmeans.absolutePath_eq_iff
    (fun name hmem => unraw_eq_of_isBareName (hholds.isBareName hbare houter name hmem))
    (fun name hmem => unraw_eq_of_isBareName (hholds.isBareName hbare hinner name hmem))
    (hholds.colonFree_append hbare houter) htarget
  rw [← hholds.modulePath_eq] at hwritten
  rw [valueSource_eq_namedConverter hpath hkind, hfiled, namedConverter_eq_ok_iff, ← hwritten]
  constructor
  · rintro ⟨hnamed, -⟩
    exact (ValueSource.namedConverter.inj hnamed).symm
  · intro habsolute
    obtain ⟨location, himplements⟩ :=
      hconverter.exists_implements hinner text.file text.modulePath
    rw [habsolute]
    refine ⟨rfl, _, hread.mem_converters_iff.mpr ⟨text, htext, items, hholds.reads, himplements⟩,
      himplemented, ?_⟩
    rw [hentryType, ValueType.base_ofType, htype, sameType, beq_self_eq_true]
    rfl

/-- A converter that a parameter gets by its path is one that some text implements. -/
theorem SourceSet.IsReadFrom.exists_implements [SourceParser] (hread : sources.IsReadFrom texts)
    {context : RouteContext} {modulePath path : String} {entry : BoundParameter}
    (hsource : valueSource context modulePath sources.converters entry =
      .ok (.namedConverter path)) :
    ∃ text ∈ texts, ∃ items declared, SourceParser.file text.content = .ok items ∧
      Implements text.file text.modulePath items declared ∧
      absolutePath declared.modulePath declared.converter = path := by
  obtain ⟨written, hnamed⟩ := namedConverter_of_valueSource hsource
  obtain ⟨hsame, declared, hmem, hdeclared, -⟩ := namedConverter_eq_ok_iff.mp hnamed
  cases hsame
  obtain ⟨text, htext, items, hitems, himplements⟩ := hread.mem_converters_iff.mp hmem
  exact ⟨text, htext, items, declared, hitems, himplements, hdeclared⟩

/-- A parameter whose converter a path legally names, and whose values have the converter's type,
gets that converter exactly when the names behind the first words of the path are written as
the converter is filed.  Every named converter is one that some text implements. -/
theorem valueSource_named_iff [SourceParser] (hbare : DeclaresBareNames)
    (hread : sources.IsReadFrom texts) :
    (∀ text ∈ texts, ∀ mount items, text.Holds mount items →
      ∀ inner outer content members,
      LeadsInto items inner content → LeadsInto items outer members →
      ∀ written target, DeclaresConverter content written target →
      ∀ context entry, ∀ parameter : Parameter, parameter.IsBoundBy context entry →
      (parameter.type.optionValue?.getD parameter.type).canonical = target →
      ∀ spelling : Spelling, parameter.NamesConverter spelling.path →
      spelling.Means ("crate" :: mount ++ outer) ("crate" :: mount ++ inner ++ [written]) →
      (valueSource context (outer.foldl childPath text.modulePath) sources.converters entry =
          .ok (.namedConverter (childPath (inner.foldl childPath text.modulePath) written)) ↔
        spelling.names <:+ "crate" :: mount ++ inner ++ [written])) ∧
    ∀ context modulePath entry path,
      valueSource context modulePath sources.converters entry = .ok (.namedConverter path) →
      ∃ text ∈ texts, ∃ items declared, SourceParser.file text.content = .ok items ∧
        Implements text.file text.modulePath items declared ∧
        absolutePath declared.modulePath declared.converter = path := by
  constructor
  · intro text htext mount items hholds inner outer content members hinner houter written target
      hconverter context entry parameter hbound htype spelling hnames hmeans
    exact hmeans.valueSource_eq_iff hbare hread htext hholds hinner houter hconverter hbound htype
      hnames
  · intro context modulePath entry path hsource
    exact hread.exists_implements hsource

end Sources

/-! ### A converter in a module of a group -/

section Standard

attribute [local instance] SourceParser.standard

/-- A group with a handler whose parameter names a converter in a module of the group. -/
def converterText (name : String) : SourceText where
  modulePath := "crate::routes"
  file := "routes.rs"
  content := "#[route_group] pub mod a \x7b #[get(\"/\x7bid\x7d\")] pub fn f(#[convert(" ++ name ++
    "::C)] id: u8) \x7b\x7d pub mod " ++ name ++
    " \x7b pub struct C; impl Converter<u8> for C \x7b\x7d \x7d \x7d"

/-- The sources that hold this text alone. -/
def converterSources (name : String) : SourceSet :=
  (SourceSet.empty.addText (converterText name).modulePath (converterText name).file
    (converterText name).content).toOption.getD .empty

def converterItems (name : String) : List Item :=
  (SourceParser.file (converterText name).content).toOption.getD []

/-- The items of a module in this text. -/
def converterContent (name : String) (names : List String) : List Item :=
  (contentAt? names (converterItems name)).getD []

/-- The text is read, and its converter stands in a module of the name `filed`. -/
structure HoldsConverter (name filed : String) : Prop where
  added : (SourceSet.empty.addText (converterText name).modulePath (converterText name).file
    (converterText name).content).isOk = true
  reads : (SourceParser.file (converterText name).content).isOk = true
  outer : (contentAt? ["a"] (converterItems name)).isSome = true
  inner : (contentAt? ["a", filed] (converterItems name)).isSome = true
  isStruct : (converterContent name ["a", filed]).any (Item.isStruct (unraw "C")) = true
  implements :
    (converterContent name ["a", filed]).any (Item.implementsConverter "C" "u8") = true

instance (name filed : String) : Decidable (HoldsConverter name filed) :=
  decidable_of_iff (_ ∧ _ ∧ _ ∧ _ ∧ _ ∧ _)
    ⟨fun ⟨hadded, hreads, houter, hinner, hstruct, himplements⟩ =>
      ⟨hadded, hreads, houter, hinner, hstruct, himplements⟩,
      fun hholds => ⟨hholds.added, hholds.reads, hholds.outer, hholds.inner, hholds.isStruct,
        hholds.implements⟩⟩

namespace HoldsConverter

variable {name filed : String}

theorem isReadFrom (hholds : HoldsConverter name filed) :
    (converterSources name).IsReadFrom [converterText name] :=
  .addText .empty (eq_ok_getD hholds.added .empty)

theorem holds (hholds : HoldsConverter name filed) :
    (converterText name).Holds ["routes"] (converterItems name) where
  reads := eq_ok_getD hholds.reads []
  mounted := by
    change "crate::routes" = joinTexts "::" ["crate", "routes"]
    decide +kernel
  colonFree := by
    intro piece hmem
    cases List.mem_singleton.mp hmem
    decide

theorem leadsInto_outer (hholds : HoldsConverter name filed) :
    LeadsInto (converterItems name) ["a"] (converterContent name ["a"]) :=
  leadsInto_of_contentAt?
    ((Option.eq_some_of_isSome hholds.outer).trans (congrArg some (Option.get_eq_getD _)))

theorem leadsInto_inner (hholds : HoldsConverter name filed) :
    LeadsInto (converterItems name) ["a", filed] (converterContent name ["a", filed]) :=
  leadsInto_of_contentAt?
    ((Option.eq_some_of_isSome hholds.inner).trans (congrArg some (Option.get_eq_getD _)))

theorem declaresConverter (hholds : HoldsConverter name filed) :
    DeclaresConverter (converterContent name ["a", filed]) "C" "u8" :=
  ⟨by decide +kernel, hholds.isStruct, hholds.implements⟩

end HoldsConverter

/-- The path that the parameter's marker writes. -/
def converterSpelling (name : String) : Spelling := ⟨.inside false 0, [name, "C"]⟩

def convertedParameter (name : String) : Parameter :=
  ⟨[⟨false, false, ["convert"], .list (segmentTokens [.mk name none, .mk "C" none])⟩],
    some "id", [], .path (.mk false [.mk "u8" none])⟩

def convertedSignature (name : String) : Signature where
  name := "f"
  line := 1
  parameters := [convertedParameter name]
  output := none
  isAsync := false
  hasReceiver := false
  hasGenerics := false

def convertedContext : RouteContext := ⟨"/\x7bid\x7d", "f", ⟨"routes.rs", 1⟩⟩

def convertedEntry (name : String) : BoundParameter :=
  ⟨"id", "id", ⟨"u8", "u8", false⟩, 0, .path, true, some (converterSpelling name).path.canonical⟩

theorem bindParameters_converted :
    bindParameters convertedContext (.ofSignature (convertedSignature "inner")) =
      .ok [convertedEntry "inner"] := by
  have hsorted : byPosition [convertedEntry "inner"] = [convertedEntry "inner"] :=
    byPosition_eq_of_perm (List.Perm.refl _) (List.pairwise_singleton _ _)
  have hbind : bindParameters convertedContext (.ofSignature (convertedSignature "inner")) =
      .ok (byPosition [convertedEntry "inner"]) := rfl
  rw [hbind, hsorted]

theorem valueSource_named_inner :
    (converterSources "inner").IsReadFrom [converterText "inner"] ∧
      bindParameters convertedContext (.ofSignature (convertedSignature "inner")) =
        .ok [convertedEntry "inner"] ∧
      valueSource convertedContext "crate::routes::a" (converterSources "inner").converters
        (convertedEntry "inner") = .ok (.namedConverter "crate::routes::a::inner::C") := by
  have hholds : HoldsConverter "inner" "inner" := by
    decide +kernel
  have hbound : (convertedParameter "inner").IsBoundBy convertedContext (convertedEntry "inner") :=
    ⟨convertedSignature "inner", _, 0, bindParameters_converted, rfl, rfl⟩
  have hnames : (convertedParameter "inner").NamesConverter (converterSpelling "inner").path :=
    ⟨_, List.mem_singleton_self _, _, rfl, rfl, rfl⟩
  have hmeans : (converterSpelling "inner").Means ("crate" :: ["routes"] ++ ["a"])
      ("crate" :: ["routes"] ++ ["a", "inner"] ++ ["C"]) :=
    ⟨List.cons_ne_nil _ _, by decide +kernel, Nat.succ_pos _, by decide +kernel⟩
  have hresolves := (valueSource_named_iff declaresBareNames_standard hholds.isReadFrom).1 _
    (List.mem_singleton_self _) _ _
    hholds.holds _ _ _ _ hholds.leadsInto_inner hholds.leadsInto_outer _ _
    hholds.declaresConverter _ _ _ hbound (by decide +kernel) _ hnames hmeans
  exact ⟨hholds.isReadFrom, bindParameters_converted,
    hresolves.mpr ⟨["crate", "routes", "a"], rfl⟩⟩

/-- The module is declared by a raw identifier and filed without its mark. -/
theorem valueSource_raw_module :
    HoldsConverter "r#type" "type" ∧
      (convertedParameter "r#type").NamesConverter (converterSpelling "r#type").path ∧
      (converterSpelling "r#type").Means ["crate", "routes", "a"]
        ["crate", "routes", "a", "type", "C"] ∧
      valueSource convertedContext "crate::routes::a" (converterSources "r#type").converters
        (convertedEntry "r#type") =
          .error (.unknownConverter ⟨"routes.rs", 1⟩ "/\x7bid\x7d" "id" "r#type::C") ∧
      (compile .standard (converterSources "r#type")).1 =
        .error (.diagnostics
          [.unknownConverter ⟨"routes.rs", 1⟩ "/\x7bid\x7d" "id" "r#type::C"]) := by
  have hnames : (convertedParameter "r#type").NamesConverter (converterSpelling "r#type").path :=
    ⟨_, List.mem_singleton_self _, _, rfl, rfl, rfl⟩
  have hmeans : (converterSpelling "r#type").Means ["crate", "routes", "a"]
      ["crate", "routes", "a", "type", "C"] :=
    ⟨List.cons_ne_nil _ _, by decide +kernel, Nat.succ_pos _, by decide +kernel⟩
  exact ⟨by decide +kernel, hnames, hmeans, by decide +kernel, by decide +kernel⟩

end Standard

end MarkedRoutes
