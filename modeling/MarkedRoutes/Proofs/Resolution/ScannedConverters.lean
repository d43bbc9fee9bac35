import MarkedRoutes.Loading
import MarkedRoutes.Proofs.Discovery.Mounted

/-!
# Converters that were scanned

The converters of a set of sources are the implementations of `Converter<T>` in the inline
modules of the texts that were read, each with the path of its module.
-/

namespace MarkedRoutes

open MarkedRoutes.Source

/-- Inline modules of some names lead from items to the content of the last one. -/
inductive LeadsInto : List Item → List String → List Item → Prop
  | here {items : List Item} : LeadsInto items [] items
  | inside {items content inner : List Item} {attributes : List Attribute}
      {visibility : Visibility} {name : String} {line : ℕ} {names : List String}
      (hmem : .module attributes visibility name line (some content) ∈ items)
      (hleads : LeadsInto content names inner) : LeadsInto items (name :: names) inner

/-- The names of inline modules are identifiers in a text that was read. -/
theorem LeadsInto.isBareName {items inner : List Item} {names : List String}
    (hleads : LeadsInto items names inner)
    (hnames : ∀ name ∈ namesOf items, isBareName name = true) :
    ∀ name ∈ names, isBareName name = true := by
  induction hleads with
  | here => exact fun _ hmem => nomatch hmem
  | inside hmem hleads ih =>
      have hsubset := names_subset_namesOf hmem
      rw [Item.names, List.cons_subset] at hsubset
      exact List.forall_mem_cons.mpr
        ⟨hnames _ hsubset.1, ih fun name hname => hnames name (hsubset.2 hname)⟩

def Source.Item.contentOf? (name : String) : Item → Option (List Item)
  | .module _ _ found _ (some content) => if found = name then some content else none
  | _ => none

/-- The content that the first inline modules of some names lead to. -/
def contentAt? : List String → List Item → Option (List Item)
  | [], items => some items
  | name :: names, items => (items.findSome? (Item.contentOf? name)).bind (contentAt? names)

theorem leadsInto_of_contentAt? {items inner : List Item} {names : List String}
    (hcontent : contentAt? names items = some inner) : LeadsInto items names inner := by
  induction names generalizing items with
  | nil =>
      cases hcontent
      exact .here
  | cons name names ih =>
      obtain ⟨content, hfirst, hinner⟩ := Option.bind_eq_some_iff.mp hcontent
      obtain ⟨item, hmem, hitem⟩ := List.exists_of_findSome?_eq_some hfirst
      rw [Item.contentOf?.eq_def] at hitem
      split at hitem
      · split_ifs at hitem with hname
        cases hitem
        subst hname
        exact .inside hmem (ih hinner)
      · cases hitem

/-! ### Items -/

/-- An implementation in a module of some items declares a converter. -/
def Implements (file modulePath : String) (items : List Item) (declared : ConverterDeclaration) :
    Prop :=
  ∃ names content attributes line interface subject,
    LeadsInto items names content ∧
      Item.implementation attributes line (some interface) subject ∈ content ∧
      converterOfImplementation? file (names.foldl childPath modulePath) line interface subject =
        some declared

section Items

variable {file modulePath : String} {items more : List Item} {declared : ConverterDeclaration}

theorem Implements.mono (himplements : Implements file modulePath items declared)
    (hsubset : items ⊆ more) : Implements file modulePath more declared := by
  obtain ⟨names, content, attributes, line, interface, subject, hleads, hmem, hdeclared⟩ :=
    himplements
  cases hleads with
  | here => exact ⟨[], more, attributes, line, interface, subject, .here, hsubset hmem, hdeclared⟩
  | inside hmodule hleads =>
      exact ⟨_, content, attributes, line, interface, subject, .inside (hsubset hmodule) hleads,
        hmem, hdeclared⟩

theorem convertersOfItem_subset {item : Item} (hmem : item ∈ items) :
    convertersOfItem file modulePath item ⊆ convertersOfItems file modulePath items := by
  induction items with
  | nil => cases hmem
  | cons first items ih =>
      rw [convertersOfItems]
      rcases List.mem_cons.mp hmem with rfl | hmem
      · exact List.subset_append_left _ _
      · exact List.subset_append_of_subset_right _ (ih hmem)

mutual

/-- A converter of an item is implemented there, or in a module inside it. -/
theorem implements_of_convertersOfItem {modulePath : String} : ∀ item : Item,
    declared ∈ convertersOfItem file modulePath item → Implements file modulePath [item] declared
  | .module attributes visibility name line (some content) => by
      intro hmem
      rw [convertersOfItem] at hmem
      obtain ⟨names, inner, attributes, line, interface, subject, hleads, hmem, hdeclared⟩ :=
        implements_of_convertersOfItems content hmem
      exact ⟨name :: names, inner, attributes, line, interface, subject,
        .inside (List.mem_singleton_self _) hleads, hmem, hdeclared⟩
  | .module attributes visibility name line none => by
      intro hmem
      rw [convertersOfItem.eq_def] at hmem
      cases hmem
  | .implementation attributes line (some interface) subject => by
      intro hmem
      rw [convertersOfItem, Option.mem_toList] at hmem
      exact ⟨[], _, attributes, line, interface, subject, .here, List.mem_singleton_self _, hmem⟩
  | .implementation attributes line none subject => by
      intro hmem
      cases hmem
  | .function attributes visibility signature => by
      intro hmem
      cases hmem
  | .named kind attributes visibility name line => by
      intro hmem
      cases hmem
  | .other attributes => by
      intro hmem
      cases hmem

theorem implements_of_convertersOfItems {modulePath : String} : ∀ items : List Item,
    declared ∈ convertersOfItems file modulePath items → Implements file modulePath items declared
  | [] => by
      intro hmem
      cases hmem
  | first :: rest => by
      intro hmem
      rw [convertersOfItems] at hmem
      rcases List.mem_append.mp hmem with hmem | hmem
      · exact (implements_of_convertersOfItem first hmem).mono
          (List.cons_subset.mpr ⟨List.mem_cons_self, List.nil_subset _⟩)
      · exact (implements_of_convertersOfItems rest hmem).mono (List.subset_cons_self _ _)

end

/-- The converters of items are those that some implementation in their modules declares. -/
theorem mem_convertersOfItems_iff :
    declared ∈ convertersOfItems file modulePath items ↔
      Implements file modulePath items declared := by
  refine ⟨implements_of_convertersOfItems items, ?_⟩
  rintro ⟨names, content, attributes, line, interface, subject, hleads, hmem, hdeclared⟩
  induction hleads generalizing modulePath with
  | here =>
      refine convertersOfItem_subset hmem ?_
      rw [convertersOfItem, Option.mem_toList]
      exact hdeclared
  | inside hmodule hleads ih =>
      refine convertersOfItem_subset hmodule ?_
      rw [convertersOfItem]
      exact ih hmem hdeclared

end Items

/-! ### Sources -/

/-- A text of a source file with its name and the path of the module where it stands. -/
structure SourceText where
  modulePath : String
  file : String
  content : String

/-- Sources that were read one after another from some texts. -/
inductive SourceSet.IsReadFrom [SourceParser] : List SourceText → SourceSet → Prop
  | empty : IsReadFrom [] .empty
  | addText {texts : List SourceText} {text : SourceText} {sources extended : SourceSet}
      (hread : IsReadFrom texts sources)
      (hadd : sources.addText text.modulePath text.file text.content = .ok extended) :
      IsReadFrom (texts ++ [text]) extended

/-- The converters of sources are those that their texts implement. -/
theorem SourceSet.IsReadFrom.mem_converters_iff [SourceParser] {texts : List SourceText}
    {sources : SourceSet} (hread : sources.IsReadFrom texts) {declared : ConverterDeclaration} :
    declared ∈ sources.converters ↔ ∃ text ∈ texts, ∃ items,
      SourceParser.file text.content = .ok items ∧
        Implements text.file text.modulePath items declared := by
  induction hread with
  | empty =>
      constructor
      · intro hmem
        cases hmem
      · rintro ⟨text, htext, -⟩
        cases htext
  | @addText texts text sources extended _ hadd ih =>
      obtain ⟨items, hitems, rfl⟩ := SourceSet.addText_ok hadd
      rw [SourceSet.add, List.mem_append, ih, mem_convertersOfItems_iff]
      constructor
      · rintro (⟨other, hother, hscanned⟩ | himplements)
        · exact ⟨other, List.mem_append_left _ hother, hscanned⟩
        · exact ⟨text, List.mem_append_right _ (List.mem_singleton_self _), items, hitems,
            himplements⟩
      · rintro ⟨other, hother, found, hfound, himplements⟩
        rcases List.mem_append.mp hother with hother | hother
        · exact Or.inl ⟨other, hother, found, hfound, himplements⟩
        · cases List.mem_singleton.mp hother
          cases hitems.symm.trans hfound
          exact Or.inr himplements

end MarkedRoutes
