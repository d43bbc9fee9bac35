import MarkedRoutes.Proofs.Source.BalancedTypes

/-!
# Readers return balanced types

Whatever a reader of types makes of plain tokens is balanced: brackets open and close where the
reader asks for them, and the tokens between come from a reader again.  As with what readers
leave, a step says this of each reader when those with less fuel keep to it.
-/

namespace MarkedRoutes.Source

open Std.Do

set_option mvcgen.warning false

/-- A reader leaves tokens that it was given, and what it returns of plain ones is as stated. -/
abbrev Gives {α : Type} (holds : α → Prop) (tokens : List Token)
    (read : Except Fault (α × List Token)) : Prop :=
  ⦃⌜True⌝⦄ read ⦃⇓? found => ⌜found.2 ⊆ tokens ∧ (Plain tokens → holds found.1)⌝⦄

/-- Every reader of types with some fuel returns balanced tokens. -/
structure TypeReadersBalance (fuel : ℕ) : Prop where
  type : ∀ plus tokens, Gives TypeExpr.IsBalanced tokens (readTypeWith fuel plus tokens)
  parenthesized : ∀ plus content tokens,
    ⦃⌜True⌝⦄ readParenthesized fuel plus content tokens
      ⦃⇓? found => ⌜found.2 ⊆ tokens ∧
        (Plain content → Plain tokens → found.1.IsBalanced)⌝⦄
  types : ∀ tokens, ⦃⌜True⌝⦄ readTypes fuel tokens
    ⦃⇓? found => ⌜Plain tokens → ∀ type ∈ found.1, type.IsBalanced⌝⦄
  qualified : ∀ tokens, Gives TypeExpr.IsBalanced tokens (readQualified fuel tokens)
  path : ∀ tokens, Gives Path.IsBalanced tokens (readPathWith fuel tokens)
  segments : ∀ tokens, Gives (fun segments => segments ≠ [] ∧
    ∀ segment ∈ segments, segment.IsBalanced) tokens (readSegments fuel tokens)
  segment : ∀ tokens, Gives Segment.IsBalanced tokens (readSegment fuel tokens)
  arguments : ∀ tokens, Gives (fun arguments => Balanced arguments.innerTokens) tokens
    (readArguments fuel tokens)
  argumentList : ∀ tokens, ⦃⌜True⌝⦄ readArgumentList fuel tokens
    ⦃⇓? found => ⌜found.2.2 ⊆ tokens ∧
      (Plain tokens → ∀ argument ∈ found.1, argument.IsBalanced)⌝⦄
  argument : ∀ tokens, Gives GenericArgument.IsBalanced tokens (readArgument fuel tokens)
  bounds : ∀ plus tokens, Gives (fun found => Balanced found.2) tokens
    (readBounds fuel plus tokens)
  moreBounds : ∀ plus tokens, Gives (fun found => Balanced found.2) tokens
    (readMoreBounds fuel plus tokens)
  bound : ∀ tokens, Gives (fun found => Balanced found.2) tokens (readBound fuel tokens)
  callArguments : ∀ tokens, Gives Balanced tokens (readCallArguments fuel tokens)
  result : ∀ tokens, Gives Balanced tokens (readResult fuel tokens)
  binder : ∀ tokens, Gives Balanced tokens (readBinder fuel tokens)
  binderLifetimes : ∀ tokens, Gives Balanced tokens (readBinderLifetimes fuel tokens)
  function : ∀ tokens, Gives Balanced tokens (readFunction fuel tokens)
  pointerParameters : ∀ tokens, ⦃⌜True⌝⦄ readPointerParameters fuel tokens
    ⦃⇓? found => ⌜Plain tokens → Plain found⌝⦄

/-! ### Putting tokens in front -/

attribute [grind .] Balanced.nil Balanced.append
attribute [grind →] Balanced.plain TypeExpr.IsBalanced.tokens Path.IsBalanced.tokens

section Cons

variable {tokens content : List Token}

@[grind .]
theorem Balanced.cons_word {name : String} {line : ℕ} (hname : isPlainText name = true)
    (htokens : Balanced tokens) : Balanced (.ident name line :: tokens) :=
  (Balanced.word hname).cons htokens

@[grind .]
theorem Balanced.cons_literal {text : String} (htext : isPlainText text = true)
    (htokens : Balanced tokens) : Balanced (.literal text :: tokens) :=
  (Balanced.literal htext).cons htokens

@[grind .]
theorem Balanced.cons_mark {mark : Char} {joined : Bool} (hmark : isPlainMark mark = true)
    (htokens : Balanced tokens) : Balanced (.punct mark joined :: tokens) :=
  (Balanced.mark hmark).cons htokens

@[grind .]
theorem Balanced.cons_group {delimiter : Delimiter} (hcontent : Plain content)
    (htokens : Balanced tokens) : Balanced (.group delimiter content :: tokens) :=
  (Balanced.group hcontent).cons htokens

@[grind .]
theorem Balanced.cons_angles {first last : Bool} (hcontent : Balanced content)
    (htokens : Balanced tokens) :
    Balanced (.punct '<' first :: (content ++ .punct '>' last :: tokens)) := by
  have hboth := (@Balanced.angles content first last hcontent).append htokens
  rwa [List.cons_append, List.append_assoc] at hboth

/-- A type in angle brackets, what stands after `as`, and the segments that follow. -/
theorem balanced_qualifiedTokens {type role : List Token} {segments : List Segment}
    (htype : Balanced type) (hrole : Balanced role)
    (hsegments : Balanced (segmentTokens segments)) :
    Balanced (.punct '<' false :: (type ++ role ++ .punct '>' false ::
      (operator [':', ':'] ++ segmentTokens segments))) :=
  .cons_angles (htype.append hrole) ((balanced_operator (by decide)).append hsegments)

@[grind →]
theorem Plain.of_mem_group {delimiter : Delimiter} (hplain : Plain tokens)
    (hmem : .group delimiter content ∈ tokens) : Plain content :=
  (plain_group_iff.mp (hplain.mono (List.cons_subset.mpr ⟨hmem, List.nil_subset _⟩))).1

@[grind →]
theorem TypeExpr.IsBalanced.of_path {path : Path} (hpath : (TypeExpr.path path).IsBalanced) :
    path.IsBalanced :=
  hpath.path path rfl

@[grind →]
theorem Path.IsBalanced.single {segment : Segment} {rooted : Bool}
    (hpath : (Path.mk rooted [segment]).IsBalanced) : Balanced segment.tokens :=
  (hpath.segments segment List.mem_cons_self).tokens

end Cons

/-! ### Readers that no type stands under -/

section Single

variable {tokens : List Token}

@[grind →]
theorem isPlainText_of_dropLifetime? {found : String × List Token}
    (hdrop : dropLifetime? tokens = some found) (hplain : Plain tokens) :
    isPlainText found.1 = true := by
  unfold dropLifetime? at hdrop
  grind

@[grind →]
theorem balanced_of_dropLiteral? {found : List Token × List Token}
    (hdrop : dropLiteral? tokens = some found) (hplain : Plain tokens) : Balanced found.1 := by
  unfold dropLiteral? at hdrop
  grind [Balanced.negative]

theorem balanced_readFunctionQualifiers (hplain : Plain tokens) :
    Balanced (readFunctionQualifiers tokens).1 := by
  have hunsafe : isPlainText "unsafe" = true := by decide
  have hextern : isPlainText "extern" = true := by decide
  have hrest {rest} (hdrop : dropWord? "unsafe" tokens = some rest) : Plain rest :=
    hplain.mono (subset_of_dropWord? hdrop)
  unfold readFunctionQualifiers
  grind [word]

theorem plain_readAttributeTokens (hplain : Plain tokens) :
    Plain (readAttributeTokens tokens).1 ∧ Plain (readAttributeTokens tokens).2 := by
  fun_induction readAttributeTokens tokens with
  | case1 joined content rest more after hread ih => grind
  | case2 tokens => grind

theorem readCaptured_balanced (fuel : ℕ) (tokens : List Token) :
    Gives Balanced tokens (readCaptured fuel tokens) := by
  have hcomma : isPlainMark ',' = true := by decide
  induction fuel generalizing tokens with
  | zero =>
      unfold readCaptured
      mvcgen
  | succ fuel ih =>
      unfold readCaptured
      cases hlifetime : dropLifetime? tokens with
      | none =>
          mvcgen [-readCaptured_spec, ih]
          all_goals grind
      | some found =>
          mvcgen [-readCaptured_spec, ih]
          all_goals grind [balanced_lifetimeTokens]

end Single

/-! ### One step of each reader -/

section Step

variable {fuel : ℕ} (ih : TypeReadersBalance fuel) (plus : Bool) (content tokens : List Token)
include ih

attribute [local grind .] isBalanced_path isBalanced_qualified isBalanced_opaqueType
  isBalanced_traitObject isBalanced_function isBalanced_macroCall isBalanced_never
  isBalanced_inferred isBalanced_reference isBalanced_pointer isBalanced_parenthesized
  isBalanced_slice isBalanced_array isBalanced_tuple

theorem readSegment_balanced : Gives Segment.IsBalanced tokens (readSegment (fuel + 1) tokens) := by
  have harguments := ih.arguments
  rw [readSegment.eq_def]
  mvcgen [harguments]
  all_goals grind [isBalanced_name, isBalanced_arguments]

theorem readSegments_balanced : Gives (fun segments => segments ≠ [] ∧
    ∀ segment ∈ segments, segment.IsBalanced) tokens (readSegments (fuel + 1) tokens) := by
  have hsegment := ih.segment
  have hsegments := ih.segments
  rw [readSegments]
  mvcgen [hsegment, hsegments]
  all_goals grind

theorem readPathWith_balanced : Gives Path.IsBalanced tokens (readPathWith (fuel + 1) tokens) := by
  have hsegments := ih.segments
  rw [readPathWith]
  mvcgen [hsegments]
  all_goals grind [Path.IsBalanced, Path.segments]

theorem readParenthesized_balanced :
    ⦃⌜True⌝⦄ readParenthesized (fuel + 1) plus content tokens
      ⦃⇓? found => ⌜found.2 ⊆ tokens ∧
        (Plain content → Plain tokens → found.1.IsBalanced)⌝⦄ := by
  have htype := ih.type
  have hbound := ih.bound
  have hmore := ih.moreBounds
  have htypes := ih.types
  rw [readParenthesized]
  mvcgen [htype, htypes, hbound, hmore]
  all_goals grind

theorem readTypes_balanced : ⦃⌜True⌝⦄ readTypes (fuel + 1) tokens
    ⦃⇓? found => ⌜Plain tokens → ∀ type ∈ found.1, type.IsBalanced⌝⦄ := by
  have htype := ih.type
  have htypes := ih.types
  rw [readTypes]
  mvcgen [htype, htypes]
  all_goals grind

theorem readTypeWith_balanced :
    Gives TypeExpr.IsBalanced tokens (readTypeWith (fuel + 1) plus tokens) := by
  have htype := ih.type
  have hparenthesized := ih.parenthesized
  have hqualified := ih.qualified
  have hpath := ih.path
  have hbounds := ih.bounds
  have hmore := ih.moreBounds
  have hbinder := ih.binder
  have hfunction := ih.function
  have hdyn : isPlainText "dyn" = true := by decide
  have himpl : isPlainText "impl" = true := by decide
  have hmark : isPlainMark '!' = true := by decide
  rw [readTypeWith.eq_def]
  mvcgen [htype, hparenthesized, hqualified, hpath, hbounds, hmore, hbinder, hfunction]
  all_goals grind [word]

theorem readQualified_balanced :
    Gives TypeExpr.IsBalanced tokens (readQualified (fuel + 1) tokens) := by
  have htype := ih.type
  have hpath := ih.path
  have hsegments := ih.segments
  have has : isPlainText "as" = true := by decide
  have hcolons : Balanced (operator [':', ':']) := balanced_operator (by decide)
  rw [readQualified]
  mvcgen [htype, hpath, hsegments]
  all_goals
    refine ⟨by grind, fun hplain => isBalanced_qualified (balanced_qualifiedTokens ?_ ?_ ?_)⟩
    all_goals grind [word, balanced_segmentTokens]

theorem readArguments_balanced : Gives (fun arguments => Balanced arguments.innerTokens) tokens
    (readArguments (fuel + 1) tokens) := by
  have hlist := ih.argumentList
  rw [readArguments]
  mvcgen [hlist]
  all_goals grind [balanced_innerTokens]

theorem readArgumentList_balanced : ⦃⌜True⌝⦄ readArgumentList (fuel + 1) tokens
    ⦃⇓? found => ⌜found.2.2 ⊆ tokens ∧
      (Plain tokens → ∀ argument ∈ found.1, argument.IsBalanced)⌝⦄ := by
  have hargument := ih.argument
  have hlist := ih.argumentList
  rw [readArgumentList]
  mvcgen [hargument, hlist]
  all_goals grind

theorem readArgument_balanced :
    Gives GenericArgument.IsBalanced tokens (readArgument (fuel + 1) tokens) := by
  have htype := ih.type
  have hbounds := ih.bounds
  have hequals : isPlainMark '=' = true := by decide
  have hcolon : isPlainMark ':' = true := by decide
  rw [readArgument.eq_def]
  mvcgen [htype, hbounds]
  all_goals grind [GenericArgument.IsBalanced]

theorem readBounds_balanced : Gives (fun found => Balanced found.2) tokens
    (readBounds (fuel + 1) plus tokens) := by
  have hbound := ih.bound
  have hmore := ih.moreBounds
  rw [readBounds]
  mvcgen [hbound, hmore]
  all_goals grind

theorem readMoreBounds_balanced : Gives (fun found => Balanced found.2) tokens
    (readMoreBounds (fuel + 1) plus tokens) := by
  have hbound := ih.bound
  have hmore := ih.moreBounds
  have hplus : isPlainMark '+' = true := by decide
  rw [readMoreBounds]
  mvcgen [hbound, hmore]
  all_goals grind

theorem readBound_balanced : Gives (fun found => Balanced found.2) tokens
    (readBound (fuel + 1) tokens) := by
  have hbound := ih.bound
  have hbinder := ih.binder
  have hpath := ih.path
  have harguments := ih.callArguments
  have hcaptured := readCaptured_balanced fuel
  have huse : isPlainText "use" = true := by decide
  have hconst : isPlainText "const" = true := by decide
  have hasync : isPlainText "async" = true := by decide
  have hquestion : isPlainMark '?' = true := by decide
  have htilde : isPlainMark '~' = true := by decide
  rw [readBound.eq_def]
  mvcgen [-readCaptured_spec, hcaptured, hbound, hbinder, hpath, harguments]
  all_goals grind [word, Balanced.angles, balanced_lifetimeTokens]

theorem readCallArguments_balanced :
    Gives Balanced tokens (readCallArguments (fuel + 1) tokens) := by
  have htypes := ih.types
  have hresult := ih.result
  rw [readCallArguments.eq_def]
  mvcgen [htypes, hresult]
  all_goals grind [plain_commaSeparated]

theorem readResult_balanced : Gives Balanced tokens (readResult (fuel + 1) tokens) := by
  have htype := ih.type
  have harrow : Balanced (operator ['-', '>']) := .arrow
  rw [readResult]
  mvcgen [htype]
  all_goals grind

theorem readBinder_balanced : Gives Balanced tokens (readBinder (fuel + 1) tokens) := by
  have hlifetimes := ih.binderLifetimes
  have hfor : isPlainText "for" = true := by decide
  rw [readBinder]
  mvcgen [hlifetimes]
  all_goals grind [word, Balanced.angles]

theorem readBinderLifetimes_balanced :
    Gives Balanced tokens (readBinderLifetimes (fuel + 1) tokens) := by
  have hlifetimes := ih.binderLifetimes
  have hcomma : isPlainMark ',' = true := by decide
  rw [readBinderLifetimes]
  mvcgen [hlifetimes]
  all_goals grind [balanced_lifetimeTokens]

theorem readFunction_balanced : Gives Balanced tokens (readFunction (fuel + 1) tokens) := by
  have hparameters := ih.pointerParameters
  have hresult := ih.result
  have hfn : isPlainText "fn" = true := by decide
  have hqualifiers (hplain : Plain tokens) := balanced_readFunctionQualifiers hplain
  have hrest (hplain : Plain tokens) : Plain (readFunctionQualifiers tokens).2 :=
    hplain.mono (readFunctionQualifiers_subset tokens)
  rw [readFunction]
  mvcgen [hparameters, hresult]
  all_goals grind [word, readFunctionQualifiers_subset]

theorem readPointerParameters_balanced :
    ⦃⌜True⌝⦄ readPointerParameters (fuel + 1) tokens
      ⦃⇓? found => ⌜Plain tokens → Plain found⌝⦄ := by
  have htype := ih.type
  have hparameters := ih.pointerParameters
  have hattributes (hplain : Plain tokens) := plain_readAttributeTokens hplain
  have hcomma : Lexeme.punctuation.contains ',' = true := by decide
  have hcolon : Lexeme.punctuation.contains ':' = true := by decide
  have hdots : Plain (operator ['.', '.', '.']) := (balanced_operator (by decide)).plain
  rw [readPointerParameters]
  mvcgen [htype, hparameters]
  all_goals grind [word]

end Step

theorem typeReadersBalance (fuel : ℕ) : TypeReadersBalance fuel := by
  induction fuel with
  | zero =>
      constructor
      all_goals
        intros
        simp only [readTypeWith, readParenthesized, readTypes, readQualified, readPathWith,
          readSegments, readSegment, readArguments, readArgumentList, readArgument, readBounds,
          readMoreBounds, readBound, readCallArguments, readResult, readBinder,
          readBinderLifetimes, readFunction, readPointerParameters]
        mvcgen
  | succ fuel ih => exact {
      type := readTypeWith_balanced ih
      parenthesized := readParenthesized_balanced ih
      types := readTypes_balanced ih
      qualified := readQualified_balanced ih
      path := readPathWith_balanced ih
      segments := readSegments_balanced ih
      segment := readSegment_balanced ih
      arguments := readArguments_balanced ih
      argumentList := readArgumentList_balanced ih
      argument := readArgument_balanced ih
      bounds := readBounds_balanced ih
      moreBounds := readMoreBounds_balanced ih
      bound := readBound_balanced ih
      callArguments := readCallArguments_balanced ih
      result := readResult_balanced ih
      binder := readBinder_balanced ih
      binderLifetimes := readBinderLifetimes_balanced ih
      function := readFunction_balanced ih
      pointerParameters := readPointerParameters_balanced ih }

/-- A type that is read from plain tokens is balanced. -/
theorem isBalanced_of_readType {tokens rest : List Token} {type : TypeExpr}
    (hread : readType tokens = .ok (type, rest)) (hplain : Plain tokens) : type.IsBalanced :=
  (of_spec ((typeReadersBalance _).type true tokens) hread).2 hplain

end MarkedRoutes.Source
