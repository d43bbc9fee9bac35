import MarkedRoutes.Proofs.Source.Leftovers
import MarkedRoutes.Proofs.Source.TokenNames
import MarkedRoutes.Source.ItemGrammar

/-!
# Names of declarations

The names of the modules, functions and parameters that a file declares stand among its
tokens, at some depth of brackets: an item reader returns names that it was given and
leaves none that it was not.  So in a text that was read the declared names are
identifiers.
-/

namespace MarkedRoutes.Source

open Std.Do

set_option mvcgen.warning false

def parameterNames (parameters : List Parameter) : List String :=
  parameters.filterMap Parameter.name

/-- The name of a function and those of its parameters. -/
def Signature.names (signature : Signature) : List String :=
  signature.name :: parameterNames signature.parameters

mutual

/-- The names of the modules, functions and parameters that an item declares, at any depth. -/
def Item.names : Item → List String
  | .module _ _ name _ (some content) => name :: namesOf content
  | .module _ _ name _ none => [name]
  | .function _ _ signature => signature.names
  | _ => []

/-- The names of the modules, functions and parameters that items declare. -/
def namesOf : List Item → List String
  | [] => []
  | first :: rest => first.names ++ namesOf rest

end

attribute [grind =] Item.names namesOf

/-! ### Parts of items -/

section Parts

variable {tokens rest : List Token}

@[spec]
theorem readPlainPath_spec (tokens : List Token) : Leaves tokens (readPlainPath tokens) := by
  fun_induction readPlainPath tokens with
  | case1 => mvcgen
  | case2 name line joined more hname ih =>
      mvcgen [ih]
      grind
  | case3 name line rest hname hmore =>
      mvcgen
      grind
  | case4 => mvcgen

@[spec]
theorem readOuterAttributes_spec (tokens : List Token) :
    Leaves tokens (readOuterAttributes tokens) := by
  fun_induction readOuterAttributes tokens with
  | case1 joined content rest ih =>
      have hattribute := trivial_spec (readAttribute false content)
      mvcgen [hattribute, ih]
      grind
  | case2 tokens =>
      mvcgen
      exact List.Subset.refl tokens

@[spec]
theorem readInnerAttributes_spec (tokens : List Token) :
    Leaves tokens (readInnerAttributes tokens) := by
  fun_induction readInnerAttributes tokens with
  | case1 joined next content rest ih =>
      have hattribute := trivial_spec (readAttribute true content)
      mvcgen [hattribute, ih]
      grind
  | case2 tokens =>
      mvcgen
      exact List.Subset.refl tokens

theorem readVisibility_subset (tokens : List Token) : (readVisibility tokens).2 ⊆ tokens := by
  unfold readVisibility
  grind

theorem dropLifetimeBounds_subset (fuel : Nat) (tokens : List Token) :
    dropLifetimeBounds fuel tokens ⊆ tokens := by
  fun_induction dropLifetimeBounds fuel tokens <;> grind

@[spec]
theorem dropPredicate_spec (tokens : List Token) :
    ⦃⌜True⌝⦄ dropPredicate tokens ⦃⇓? rest => ⌜rest ⊆ tokens⌝⦄ := by
  have hbinder := (typeReadersLeave (grammarFuel tokens)).binder
  unfold dropPredicate
  mvcgen [hbinder]
  all_goals grind [dropLifetimeBounds_subset]

@[spec]
theorem dropPredicates_spec (fuel : Nat) (tokens : List Token) :
    ⦃⌜True⌝⦄ dropPredicates fuel tokens ⦃⇓? rest => ⌜rest ⊆ tokens⌝⦄ := by
  induction fuel generalizing tokens with
  | zero =>
      unfold dropPredicates
      mvcgen
  | succ fuel ih =>
      unfold dropPredicates
      mvcgen [ih]
      all_goals grind

@[spec]
theorem dropWhereClause_spec (tokens : List Token) :
    ⦃⌜True⌝⦄ dropWhereClause tokens ⦃⇓? rest => ⌜rest ⊆ tokens⌝⦄ := by
  unfold dropWhereClause
  mvcgen
  all_goals grind

@[spec]
theorem dropConstantDefault_spec (tokens : List Token) :
    ⦃⌜True⌝⦄ dropConstantDefault tokens ⦃⇓? rest => ⌜rest ⊆ tokens⌝⦄ := by
  unfold dropConstantDefault
  mvcgen
  all_goals grind

@[spec]
theorem readGenericParameters_spec (fuel : Nat) (tokens : List Token) :
    Leaves tokens (readGenericParameters fuel tokens) := by
  induction fuel generalizing tokens with
  | zero =>
      unfold readGenericParameters
      mvcgen
  | succ fuel ih =>
      unfold readGenericParameters
      mvcgen [ih]
      all_goals grind [dropLifetimeBounds_subset]

@[spec]
theorem readGenerics_spec (tokens : List Token) : Leaves tokens (readGenerics tokens) := by
  unfold readGenerics
  mvcgen
  all_goals grind

@[grind →]
theorem subset_of_readFunctionHead? {found : Bool × List Token}
    (hread : readFunctionHead? tokens = some found) : found.2 ⊆ tokens := by
  have hconst := getD_dropWord?_subset "const" tokens
  simp only [readFunctionHead?] at hread
  split at hread <;> grind [readFunctionQualifiers_subset, Option.map_eq_some_iff]

@[grind →]
theorem subset_of_splitAtColon {found : List Token × List Token}
    (hsplit : splitAtColon tokens = some found) : found.1 ⊆ tokens ∧ found.2 ⊆ tokens := by
  fun_induction splitAtColon tokens generalizing found with
  | case1 => grind [Option.map_eq_some_iff]
  | case2 => grind
  | case3 => grind [Option.map_eq_some_iff]
  | case4 => cases hsplit

@[grind →]
theorem mem_namesIn_of_patternName? {name : String} (hname : patternName? tokens = some name) :
    unraw name ∈ namesIn tokens := by
  have href := getD_dropWord?_subset "ref" tokens
  unfold patternName? at hname
  grind [getD_dropWord?_subset]

@[grind →]
theorem subset_of_readReceiver? (hread : readReceiver? tokens = some rest) : rest ⊆ tokens := by
  have htype {typed after : List Token} {type : TypeExpr}
      (hread : readFullType typed = .ok (type, after)) : after ⊆ typed := by
    have hleaves := of_spec (readFullType_spec typed) hread
    exact hleaves
  unfold readReceiver? at hread
  split at hread
  next isReference behind hbehind =>
    have hsubset : behind ⊆ tokens := by
      split at hbehind <;> grind
    have hmutable := getD_dropWord?_subset "mut" behind
    dsimp only at hread
    split at hread
    · cases hread
    · grind

theorem parameterNames_cons_subset {parameter : Parameter} {more : List Parameter}
    {names : List String} (hname : ∀ name, parameter.name = some name → name ∈ names)
    (hmore : parameterNames more ⊆ names) : parameterNames (parameter :: more) ⊆ names := by
  intro name hmem
  obtain ⟨other, hother, hsome⟩ := List.mem_filterMap.mp hmem
  rcases List.mem_cons.mp hother with rfl | hother
  · exact hname name hsome
  · exact hmore (List.mem_filterMap.mpr ⟨other, hother, hsome⟩)

@[spec]
theorem readParameters_spec (fuel : Nat) (first : Bool) (tokens : List Token) :
    ⦃⌜True⌝⦄ readParameters fuel first tokens
      ⦃⇓? found => ⌜parameterNames found.2 ⊆ namesIn tokens⌝⦄ := by
  induction fuel generalizing first tokens with
  | zero =>
      rw [readParameters]
      mvcgen
  | succ fuel ih =>
      have hplaceholder : patternName? [.ident "_" 0] = none := by decide +kernel
      have hnothing : parameterNames [] ⊆ namesIn tokens := List.nil_subset _
      rw [readParameters]
      mvcgen [ih]
      all_goals grind [parameterNames_cons_subset, Option.map_eq_some_iff]

@[spec]
theorem readSignature_spec (isAsync : Bool) (tokens : List Token) :
    ⦃⌜True⌝⦄ readSignature isAsync tokens
      ⦃⇓? found => ⌜found.1.names ⊆ namesIn tokens ∧ found.2 ⊆ tokens⌝⦄ := by
  unfold readSignature
  mvcgen
  all_goals grind [Signature.names]

variable (item : List Token → Option (List Token))

@[spec]
theorem dropValue_spec (tokens : List Token) : Leaves tokens (dropValue item tokens) := by
  have hsuffix := (List.dropWhile_suffix (l := tokens) fun token => !startsMark ';' [token]).subset
  have hclause (clause : List Token) := trivial_spec (dropWhereClause clause)
  unfold dropValue
  mvcgen [hclause]
  all_goals grind

@[spec]
theorem dropImportTree_spec (fuel : Nat) (tokens : List Token) :
    ⦃⌜True⌝⦄ dropImportTree fuel tokens ⦃⇓? rest => ⌜rest ⊆ tokens⌝⦄ := by
  induction fuel generalizing tokens with
  | zero =>
      rw [dropImportTree]
      mvcgen
  | succ fuel ih =>
      have htrees (content : List Token) := trivial_spec (dropImportTrees fuel content)
      rw [dropImportTree]
      mvcgen [ih, htrees]
      all_goals grind [getD_dropOperator?_subset]

@[spec]
theorem dropOptionalValue_spec (tokens : List Token) :
    Leaves tokens (dropOptionalValue item tokens) := by
  unfold dropOptionalValue
  mvcgen
  all_goals grind

@[spec]
theorem dropStructBody_spec (tokens : List Token) :
    ⦃⌜True⌝⦄ dropStructBody tokens ⦃⇓? rest => ⌜rest ⊆ tokens⌝⦄ := by
  unfold dropStructBody
  mvcgen
  all_goals grind

@[spec]
theorem dropBody_spec (tokens : List Token) : Leaves tokens (dropBody item tokens) := by
  unfold dropBody
  mvcgen
  all_goals grind

@[spec]
theorem dropMacroBody_spec (tokens : List Token) :
    ⦃⌜True⌝⦄ dropMacroBody tokens ⦃⇓? rest => ⌜rest ⊆ tokens⌝⦄ := by
  unfold dropMacroBody
  mvcgen
  all_goals grind

@[spec]
theorem readImplementationHead_spec (tokens : List Token) :
    ⦃⌜True⌝⦄ readImplementationHead tokens ⦃⇓? found => ⌜namesIn found.2 ⊆ namesIn tokens⌝⦄ := by
  unfold readImplementationHead
  mvcgen
  all_goals grind [namesIn, Token.names]

@[spec]
theorem readMacroCall_spec (attributes : List Attribute) (visibility : Visibility)
    (tokens : List Token) :
    ⦃⌜True⌝⦄ readMacroCall attributes visibility tokens
      ⦃⇓? found => ⌜found.1.names = [] ∧ found.2 ⊆ tokens⌝⦄ := by
  unfold readMacroCall
  mvcgen
  all_goals grind [getD_dropOperator?_subset]

theorem dropDefault_subset (member : Bool) (tokens : List Token) :
    dropDefault member tokens ⊆ tokens := by
  have hdrop := List.drop_subset 1 tokens
  unfold dropDefault
  grind

end Parts

/-! ### Items -/

/-- What an item reader returns declares names that stand among the tokens. -/
abbrev Declares (tokens : List Token) (read : Except Fault (Item × List Token)) : Prop :=
  ⦃⌜True⌝⦄ read
    ⦃⇓? found => ⌜found.1.names ⊆ namesIn tokens ∧ namesIn found.2 ⊆ namesIn tokens⌝⦄

/-- Every reader of items with some fuel declares names that it was given. -/
structure ItemReadersDeclare (fuel : Nat) : Prop where
  items : ∀ member tokens,
    ⦃⌜True⌝⦄ readItems fuel member tokens ⦃⇓? items => ⌜namesOf items ⊆ namesIn tokens⌝⦄
  item : ∀ member tokens, Declares tokens (readItem fuel member tokens)
  otherItem : ∀ member attributes visibility tokens,
    Declares tokens (readOtherItem fuel member attributes visibility tokens)
  topItem : ∀ attributes visibility tokens,
    Declares tokens (readTopItem fuel attributes visibility tokens)
  module : ∀ attributes visibility tokens,
    Declares tokens (readModule fuel attributes visibility tokens)
  implementation : ∀ attributes visibility line tokens,
    Declares tokens (readImplementation fuel attributes visibility line tokens)
  interface : ∀ attributes visibility tokens,
    Declares tokens (readTrait fuel attributes visibility tokens)

section Step

variable {fuel : Nat} (ih : ItemReadersDeclare fuel) (member : Bool)
  (attributes : List Attribute) (visibility : Visibility) (tokens : List Token)
include ih

theorem readItems_spec :
    ⦃⌜True⌝⦄ readItems (fuel + 1) member tokens
      ⦃⇓? items => ⌜namesOf items ⊆ namesIn tokens⌝⦄ := by
  have hitem := ih.item
  have hitems := ih.items
  rw [readItems]
  mvcgen [hitem, hitems]
  all_goals grind

theorem readItem_spec : Declares tokens (readItem (fuel + 1) member tokens) := by
  have hother := ih.otherItem
  rw [readItem]
  mvcgen [hother]
  all_goals grind [readVisibility_subset, dropDefault_subset]

theorem readOtherItem_spec :
    Declares tokens (readOtherItem (fuel + 1) member attributes visibility tokens) := by
  have htop := ih.topItem
  rw [readOtherItem.eq_def]
  mvcgen [htop]
  all_goals grind [getD_dropWord?_subset]

theorem readTopItem_spec :
    Declares tokens (readTopItem (fuel + 1) attributes visibility tokens) := by
  have hmodule := ih.module
  have himplementation := ih.implementation
  have hinterface := ih.interface
  have hitems := ih.items
  rw [readTopItem.eq_def]
  mvcgen [hmodule, himplementation, hinterface, hitems]
  all_goals grind [getD_dropWord?_subset]

theorem readModule_spec :
    Declares tokens (readModule (fuel + 1) attributes visibility tokens) := by
  have hitems := ih.items
  rw [readModule.eq_def]
  mvcgen [hitems]
  all_goals grind

theorem readImplementation_spec (line : ℕ) :
    Declares tokens (readImplementation (fuel + 1) attributes visibility line tokens) := by
  have hitems := ih.items
  rw [readImplementation]
  mvcgen [hitems]
  all_goals grind

theorem readTrait_spec :
    Declares tokens (readTrait (fuel + 1) attributes visibility tokens) := by
  have hitems := ih.items
  rw [readTrait]
  mvcgen [hitems]
  all_goals grind

end Step

theorem itemReadersDeclare (fuel : Nat) : ItemReadersDeclare fuel := by
  induction fuel with
  | zero =>
      constructor
      all_goals
        intros
        simp only [readItems, readItem, readOtherItem, readTopItem, readModule,
          readImplementation, readTrait]
        mvcgen
  | succ fuel ih => exact {
      items := readItems_spec ih
      item := readItem_spec ih
      otherItem := readOtherItem_spec ih
      topItem := readTopItem_spec ih
      module := readModule_spec ih
      implementation := fun attributes visibility line tokens =>
        readImplementation_spec ih attributes visibility tokens line
      interface := readTrait_spec ih }

/-! ### Files -/

/-- The names that files declare are bare identifiers. -/
def DeclaresBareNames [SourceParser] : Prop :=
  ∀ text items, SourceParser.file text = .ok items → ∀ name ∈ namesOf items, isBareName name = true

theorem isBareName_of_readFileItems {text : List Char} {tokens : List Token} {items : List Item}
    (htokens : readTokens text = some tokens) (hitems : readFileItems tokens = .ok items) :
    ∀ name ∈ namesOf items, isBareName name = true := by
  intro name hname
  obtain ⟨⟨attributes, rest⟩, hattributes, hread⟩ := bind_eq_ok_iff.mp hitems
  have hrest := of_spec (readInnerAttributes_spec tokens) hattributes
  have hnames := of_spec ((itemReadersDeclare _).items false rest) hread
  exact isBareName_of_readTokens htokens name (namesIn_subset hrest (hnames hname))

/-- A parser that reads files by the grammar declares bare names. -/
theorem declaresBareNames_of_file [SourceParser]
    (hgrammar : ∀ text, SourceParser.file text = readFile text) : DeclaresBareNames := by
  intro text items hfile
  rw [hgrammar, readFile] at hfile
  split at hfile
  · next hitems =>
    cases hfile
    rw [itemsOfText?] at hitems
    split at hitems
    · cases hitems
    · next tokens htokens =>
      exact isBareName_of_readFileItems htokens (eq_ok_of_toOption hitems)
  · cases hfile

theorem declaresBareNames_standard : @DeclaresBareNames .standard :=
  @declaresBareNames_of_file .standard fun _ => rfl

end MarkedRoutes.Source
