import Mathlib
import MarkedRoutes.Proofs.Results
import MarkedRoutes.Proofs.Source.Dropping
import MarkedRoutes.Source.ExpressionGrammar

/-!
# What readers leave

A reader takes tokens from the head of a sequence and returns those that follow,
so every token that it leaves stood in the sequence before.  The readers of types
and paths call each other with less fuel: one step says of each of them, that the
others keep to this with one unit less, and an induction on the fuel closes the
circle.
-/

namespace MarkedRoutes.Source

open Std.Do

set_option mvcgen.warning false

/-! ### Results of readers -/

section Results

variable {α : Type} {post : PostCond α (.except Fault .pure)}

@[spec]
theorem ok_spec (value : α) : ⦃post.1 value⦄ (Except.ok value : Except Fault α) ⦃post⦄ := by
  intro hvalue
  exact hvalue

@[spec]
theorem error_spec (fault : Fault) :
    ⦃post.2.1 fault⦄ (Except.error fault : Except Fault α) ⦃post⦄ := by
  intro hfault
  exact hfault

theorem trivial_spec (read : Except Fault α) : ⦃⌜True⌝⦄ read ⦃⇓? _ => ⌜True⌝⦄ := by
  cases read <;> mvcgen

/-- What a specification says of every value that a reader returns holds of this one. -/
theorem of_spec {read : Except Fault α} {value : α} {holds : α → Prop}
    (hspec : ⦃⌜True⌝⦄ read ⦃⇓? found => ⌜holds found⌝⦄) (hread : read = .ok value) :
    holds value := by
  subst hread
  exact hspec trivial

end Results

/-- Whatever a reader leaves of some tokens stood among them. -/
abbrev Leaves {α : Type} (tokens : List Token) (read : Except Fault (α × List Token)) : Prop :=
  ⦃⌜True⌝⦄ read ⦃⇓? found => ⌜found.2 ⊆ tokens⌝⦄

/-! ### Single tokens -/

theorem readFunctionQualifiers_subset (tokens : List Token) :
    (readFunctionQualifiers tokens).2 ⊆ tokens := by
  unfold readFunctionQualifiers
  grind

@[spec]
theorem readMark_spec (c : Char) (tokens : List Token) :
    ⦃⌜True⌝⦄ readMark c tokens ⦃⇓? rest => ⌜rest ⊆ tokens⌝⦄ := by
  unfold readMark
  mvcgen
  exact subset_of_dropMark? ‹_›

@[spec]
theorem readOperator_spec (marks : List Char) (tokens : List Token) :
    ⦃⌜True⌝⦄ readOperator marks tokens ⦃⇓? rest => ⌜rest ⊆ tokens⌝⦄ := by
  unfold readOperator
  mvcgen
  exact subset_of_dropOperator? ‹_›

@[spec]
theorem readWord_spec (name : String) (tokens : List Token) :
    ⦃⌜True⌝⦄ readWord name tokens ⦃⇓? rest => ⌜rest ⊆ tokens⌝⦄ := by
  unfold readWord
  mvcgen
  exact subset_of_dropWord? ‹_›

/-- A group that is read stood among the tokens. -/
@[spec]
theorem readGroup_spec (delimiter : Delimiter) (tokens : List Token) :
    ⦃⌜True⌝⦄ readGroup delimiter tokens
      ⦃⇓? found => ⌜.group delimiter found.1 ∈ tokens ∧ found.2 ⊆ tokens⌝⦄ := by
  unfold readGroup
  mvcgen
  grind

@[spec]
theorem readName_spec (tokens : List Token) :
    ⦃⌜True⌝⦄ readName tokens
      ⦃⇓? found => ⌜.ident found.1.1 found.1.2 ∈ tokens ∧ found.2 ⊆ tokens⌝⦄ := by
  unfold readName
  mvcgen
  grind

/-! ### Types and paths -/

@[spec]
theorem readCaptured_spec (fuel : Nat) (tokens : List Token) :
    Leaves tokens (readCaptured fuel tokens) := by
  induction fuel generalizing tokens with
  | zero =>
      unfold readCaptured
      mvcgen
  | succ fuel ih =>
      unfold readCaptured
      cases hlifetime : dropLifetime? tokens with
      | none =>
          mvcgen [ih]
          all_goals grind
      | some found =>
          mvcgen [ih]
          all_goals grind

/-- Every reader of types with some fuel leaves tokens that it was given. -/
structure TypeReadersLeave (fuel : Nat) : Prop where
  type : ∀ plus tokens, Leaves tokens (readTypeWith fuel plus tokens)
  parenthesized : ∀ plus content tokens,
    Leaves tokens (readParenthesized fuel plus content tokens)
  qualified : ∀ tokens, Leaves tokens (readQualified fuel tokens)
  path : ∀ tokens, Leaves tokens (readPathWith fuel tokens)
  segments : ∀ tokens, Leaves tokens (readSegments fuel tokens)
  segment : ∀ tokens, Leaves tokens (readSegment fuel tokens)
  arguments : ∀ tokens, Leaves tokens (readArguments fuel tokens)
  argumentList : ∀ tokens,
    ⦃⌜True⌝⦄ readArgumentList fuel tokens ⦃⇓? found => ⌜found.2.2 ⊆ tokens⌝⦄
  argument : ∀ tokens, Leaves tokens (readArgument fuel tokens)
  bounds : ∀ plus tokens, Leaves tokens (readBounds fuel plus tokens)
  moreBounds : ∀ plus tokens, Leaves tokens (readMoreBounds fuel plus tokens)
  bound : ∀ tokens, Leaves tokens (readBound fuel tokens)
  callArguments : ∀ tokens, Leaves tokens (readCallArguments fuel tokens)
  result : ∀ tokens, Leaves tokens (readResult fuel tokens)
  binder : ∀ tokens, Leaves tokens (readBinder fuel tokens)
  binderLifetimes : ∀ tokens, Leaves tokens (readBinderLifetimes fuel tokens)
  function : ∀ tokens, Leaves tokens (readFunction fuel tokens)

section Step

variable {fuel : Nat} (ih : TypeReadersLeave fuel) (plus : Bool) (content tokens : List Token)
include ih

theorem readTypeWith_spec : Leaves tokens (readTypeWith (fuel + 1) plus tokens) := by
  have htype := ih.type
  have hparenthesized := ih.parenthesized
  have hqualified := ih.qualified
  have hpath := ih.path
  have hbounds := ih.bounds
  have hmore := ih.moreBounds
  have hbinder := ih.binder
  have hfunction := ih.function
  rw [readTypeWith.eq_def]
  mvcgen [htype, hparenthesized, hqualified, hpath, hbounds, hmore, hbinder, hfunction]
  all_goals grind

theorem readParenthesized_spec :
    Leaves tokens (readParenthesized (fuel + 1) plus content tokens) := by
  have htype := ih.type
  have hbound := ih.bound
  have hmore := ih.moreBounds
  have htypes (rest : List Token) := trivial_spec (readTypes fuel rest)
  rw [readParenthesized]
  mvcgen [htype, htypes, hbound, hmore]
  all_goals grind

theorem readQualified_spec : Leaves tokens (readQualified (fuel + 1) tokens) := by
  have htype := ih.type
  have hpath := ih.path
  have hsegments := ih.segments
  rw [readQualified]
  mvcgen [htype, hpath, hsegments]
  all_goals grind

theorem readPathWith_spec : Leaves tokens (readPathWith (fuel + 1) tokens) := by
  have hsegments := ih.segments
  rw [readPathWith]
  mvcgen [hsegments]
  all_goals grind

theorem readSegments_spec : Leaves tokens (readSegments (fuel + 1) tokens) := by
  have hsegment := ih.segment
  have hsegments := ih.segments
  rw [readSegments]
  mvcgen [hsegment, hsegments]
  all_goals grind

theorem readSegment_spec : Leaves tokens (readSegment (fuel + 1) tokens) := by
  have harguments := ih.arguments
  rw [readSegment.eq_def]
  mvcgen [harguments]
  all_goals grind

theorem readArguments_spec : Leaves tokens (readArguments (fuel + 1) tokens) := by
  have hlist := ih.argumentList
  rw [readArguments]
  mvcgen [hlist]
  all_goals grind

theorem readArgumentList_spec :
    ⦃⌜True⌝⦄ readArgumentList (fuel + 1) tokens ⦃⇓? found => ⌜found.2.2 ⊆ tokens⌝⦄ := by
  have hargument := ih.argument
  have hlist := ih.argumentList
  rw [readArgumentList]
  mvcgen [hargument, hlist]
  all_goals grind

theorem readArgument_spec : Leaves tokens (readArgument (fuel + 1) tokens) := by
  have htype := ih.type
  have hbounds := ih.bounds
  rw [readArgument.eq_def]
  mvcgen [htype, hbounds]
  all_goals grind

theorem readBounds_spec : Leaves tokens (readBounds (fuel + 1) plus tokens) := by
  have hbound := ih.bound
  have hmore := ih.moreBounds
  rw [readBounds]
  mvcgen [hbound, hmore]
  all_goals grind

theorem readMoreBounds_spec : Leaves tokens (readMoreBounds (fuel + 1) plus tokens) := by
  have hbound := ih.bound
  have hmore := ih.moreBounds
  rw [readMoreBounds]
  mvcgen [hbound, hmore]
  all_goals grind

theorem readBound_spec : Leaves tokens (readBound (fuel + 1) tokens) := by
  have hbound := ih.bound
  have hbinder := ih.binder
  have hpath := ih.path
  have harguments := ih.callArguments
  rw [readBound.eq_def]
  mvcgen [hbound, hbinder, hpath, harguments]
  all_goals grind

theorem readCallArguments_spec : Leaves tokens (readCallArguments (fuel + 1) tokens) := by
  have hresult := ih.result
  have htypes (rest : List Token) := trivial_spec (readTypes fuel rest)
  rw [readCallArguments.eq_def]
  mvcgen [htypes, hresult]
  all_goals grind

theorem readResult_spec : Leaves tokens (readResult (fuel + 1) tokens) := by
  have htype := ih.type
  rw [readResult]
  mvcgen [htype]
  all_goals grind

theorem readBinder_spec : Leaves tokens (readBinder (fuel + 1) tokens) := by
  have hlifetimes := ih.binderLifetimes
  rw [readBinder]
  mvcgen [hlifetimes]
  all_goals grind

theorem readBinderLifetimes_spec : Leaves tokens (readBinderLifetimes (fuel + 1) tokens) := by
  have hlifetimes := ih.binderLifetimes
  rw [readBinderLifetimes]
  mvcgen [hlifetimes]
  all_goals grind

theorem readFunction_spec : Leaves tokens (readFunction (fuel + 1) tokens) := by
  have hresult := ih.result
  have hparameters (rest : List Token) := trivial_spec (readPointerParameters fuel rest)
  rw [readFunction]
  mvcgen [hparameters, hresult]
  grind [readFunctionQualifiers_subset]

end Step

theorem typeReadersLeave (fuel : Nat) : TypeReadersLeave fuel := by
  induction fuel with
  | zero =>
      constructor
      all_goals
        intros
        simp only [readTypeWith, readParenthesized, readQualified, readPathWith, readSegments,
          readSegment, readArguments, readArgumentList, readArgument, readBounds, readMoreBounds,
          readBound, readCallArguments, readResult, readBinder, readBinderLifetimes, readFunction]
        mvcgen
  | succ fuel ih => exact {
      type := readTypeWith_spec ih
      parenthesized := readParenthesized_spec ih
      qualified := readQualified_spec ih
      path := readPathWith_spec ih
      segments := readSegments_spec ih
      segment := readSegment_spec ih
      arguments := readArguments_spec ih
      argumentList := readArgumentList_spec ih
      argument := readArgument_spec ih
      bounds := readBounds_spec ih
      moreBounds := readMoreBounds_spec ih
      bound := readBound_spec ih
      callArguments := readCallArguments_spec ih
      result := readResult_spec ih
      binder := readBinder_spec ih
      binderLifetimes := readBinderLifetimes_spec ih
      function := readFunction_spec ih }

@[spec]
theorem readType_spec (tokens : List Token) : Leaves tokens (readType tokens) :=
  (typeReadersLeave _).type true tokens

@[spec]
theorem readBoundList_spec (tokens : List Token) : Leaves tokens (readBoundList tokens) := by
  have hbounds := (typeReadersLeave (grammarFuel tokens)).bounds
  unfold readBoundList
  mvcgen [hbounds]

/-! ### Types with their constants -/

/-- A check of constants refuses what was read or keeps it. -/
theorem eq_ok_of_checkConstants {α : Type} {written : α → List Token}
    {read : Except Fault (α × List Token)} {found : α × List Token}
    (hcheck : checkConstants written read = .ok found) : read = .ok found := by
  obtain ⟨first, hread, hfits⟩ := bind_eq_ok_iff.mp hcheck
  dsimp only at hfits
  split at hfits
  · cases hfits
    exact hread
  · cases hfits

theorem checkConstants_leaves {α : Type} {written : α → List Token} {tokens : List Token}
    {read : Except Fault (α × List Token)} (hread : Leaves tokens read) :
    Leaves tokens (checkConstants written read) := by
  unfold checkConstants
  mvcgen [hread]

@[spec]
theorem readFullType_spec (tokens : List Token) : Leaves tokens (readFullType tokens) :=
  checkConstants_leaves (readType_spec tokens)

@[spec]
theorem readFullBounds_spec (tokens : List Token) : Leaves tokens (readFullBounds tokens) :=
  checkConstants_leaves (readBoundList_spec tokens)

end MarkedRoutes.Source
