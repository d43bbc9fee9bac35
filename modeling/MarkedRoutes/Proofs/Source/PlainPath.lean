import MarkedRoutes.Source.TypeExpr
import MarkedRoutes.Text.Split
import Mathlib.Tactic.SplitIfs

/-!
# Paths of plain names

The text by which a path without generic arguments is compared has its names with `::` between
them and no blanks.
-/

namespace MarkedRoutes.Source

open MarkedRoutes.Text

/-- The path of some names, without generic arguments. -/
def Path.ofNames (names : List String) : Path := .mk false (names.map fun name => .mk name none)

variable {previous : Option Char} {text rest : List Char}

/-! ### Squeezing -/

theorem squeeze_cons (previous : Option Char) (c : Char) (rest : List Char) :
    squeeze previous (c :: rest) =
      if isBlank c then
        match previous, rest.find? fun next => !isBlank next with
        | some before, some after =>
          if isWordChar before && isWordChar after then ' ' :: squeeze (some ' ') rest
          else squeeze previous rest
        | _, _ => squeeze previous rest
      else c :: squeeze (some c) rest :=
  rfl

theorem squeeze_cons_of_not {c : Char} (hc : isBlank c = false) :
    squeeze previous (c :: rest) = c :: squeeze (some c) rest := by
  rw [squeeze_cons, hc]
  rfl

/-- A text without blanks is kept. -/
theorem squeeze_append (previous : Option Char) (htext : ∀ c ∈ text, isBlank c = false)
    (rest : List Char) : ∃ last, squeeze previous (text ++ rest) = text ++ squeeze last rest := by
  induction text generalizing previous with
  | nil => exact ⟨previous, rfl⟩
  | cons c text ih =>
      obtain ⟨hc, htext⟩ := List.forall_mem_cons.mp htext
      obtain ⟨last, hlast⟩ := ih (some c) htext
      refine ⟨last, ?_⟩
      rw [List.cons_append, squeeze_cons_of_not hc, hlast, List.cons_append]

/-- A blank next to a colon is dropped. -/
theorem squeeze_blank (hcolon : previous = some ':' ∨ rest.head? = some ':') :
    squeeze previous (' ' :: rest) = squeeze previous rest := by
  have hblank : isBlank ' ' = true := by decide
  have hcolonBlank : isBlank ':' = false := by decide
  have hword : isWordChar ':' = false := by decide
  rw [squeeze_cons, if_pos hblank]
  split
  · next before after hafter =>
    split_ifs with hwords
    · rw [Bool.and_eq_true] at hwords
      rcases hcolon with hprevious | hrest
      · cases hprevious
        rw [hword] at hwords
        cases hwords.1
      · cases rest with
        | nil => cases hrest
        | cons first rest =>
            cases hrest
            rw [List.find?_cons_of_pos (by rw [hcolonBlank]; rfl)] at hafter
            cases hafter
            rw [hword] at hwords
            cases hwords.2
    · rfl
  · rfl

/-- The blanks around `::` are dropped. -/
theorem squeeze_separator (rest : List Char) :
    squeeze previous (' ' :: ':' :: ':' :: ' ' :: rest) =
      ':' :: ':' :: squeeze (some ':') rest := by
  have hcolon : isBlank ':' = false := by decide
  rw [squeeze_blank (Or.inr rfl), squeeze_cons_of_not hcolon, squeeze_cons_of_not hcolon,
    squeeze_blank (Or.inl rfl)]

/-! ### Canonical texts -/

theorem spaced_segmentTokens (first second : String) (names : List String) :
    Token.spaced (segmentTokens ((first :: second :: names).map fun name => .mk name none)) =
      first.toList ++ ' ' :: ':' :: ':' :: ' ' ::
        Token.spaced (segmentTokens ((second :: names).map fun name => .mk name none)) := by
  obtain ⟨more, hmore⟩ : ∃ more,
      segmentTokens ((second :: names).map fun name => .mk name none) = word second :: more := by
    cases names with
    | nil => exact ⟨_, rfl⟩
    | cons third names => exact ⟨_, rfl⟩
  have htokens : segmentTokens ((first :: second :: names).map fun name => .mk name none) =
      word first :: .punct ':' true :: .punct ':' false :: word second :: more := by
    rw [← hmore]
    rfl
  rw [hmore, htokens, word, Token.spaced, Token.spaced, Token.spaced]
  rfl

theorem squeeze_segmentTokens {names : List String} (hne : names ≠ [])
    (hblank : ∀ name ∈ names, ∀ c ∈ name.toList, isBlank c = false) :
    squeeze previous (Token.spaced (segmentTokens (names.map fun name => .mk name none))) =
      join [':', ':'] (names.map String.toList) := by
  induction names generalizing previous with
  | nil => exact absurd rfl hne
  | cons first names ih =>
      obtain ⟨hfirst, hnames⟩ := List.forall_mem_cons.mp hblank
      cases names with
      | nil =>
          obtain ⟨last, hlast⟩ := squeeze_append previous hfirst []
          rw [List.append_nil] at hlast
          exact hlast.trans (List.append_nil _)
      | cons second names =>
          obtain ⟨last, hlast⟩ := squeeze_append previous hfirst (' ' :: ':' :: ':' :: ' ' ::
            Token.spaced (segmentTokens ((second :: names).map fun name => .mk name none)))
          rw [spaced_segmentTokens, hlast, squeeze_separator, ih (List.cons_ne_nil _ _) hnames]
          rfl

/-- The text by which a path of plain names is compared. -/
theorem Path.canonical_ofNames {names : List String} (hne : names ≠ [])
    (hblank : ∀ name ∈ names, ∀ c ∈ name.toList, isBlank c = false) :
    (Path.ofNames names).canonical = joinTexts "::" names := by
  have htokens : (Path.ofNames names).tokens =
      segmentTokens (names.map fun name => .mk name none) := rfl
  rw [Path.canonical, canonicalText, htokens, squeeze_segmentTokens hne hblank]
  rfl

end MarkedRoutes.Source
