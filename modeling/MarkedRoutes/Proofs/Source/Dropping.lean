import MarkedRoutes.Source.Lexer
import MarkedRoutes.Source.Reading
import Mathlib.Data.List.TakeWhile

/-!
# What is left behind a token

Whatever stands behind a dropped mark, operator, word, lifetime or literal stood among the
tokens before.
-/

namespace MarkedRoutes.Source

variable {tokens rest : List Token}

theorem dropMark?_eq_some {c : Char} (hdrop : dropMark? c tokens = some rest) :
    ∃ joined, tokens = .punct c joined :: rest := by
  rw [dropMark?.eq_def] at hdrop
  split at hdrop
  · next found joined rest =>
    split_ifs at hdrop with hfound
    cases hdrop
    exact ⟨joined, by rw [hfound]⟩
  · cases hdrop

@[grind →]
theorem subset_of_dropMark? {c : Char} (hdrop : dropMark? c tokens = some rest) :
    rest ⊆ tokens := by
  obtain ⟨joined, rfl⟩ := dropMark?_eq_some hdrop
  exact List.subset_cons_self _ _

/-- What stands behind an operator stood there before. -/
@[grind →]
theorem subset_of_dropOperator? {marks : List Char}
    (hdrop : dropOperator? marks tokens = some rest) : rest ⊆ tokens := by
  fun_induction dropOperator? marks tokens with
  | case1 tokens =>
      cases hdrop
      exact List.Subset.refl _
  | case2 last tokens => exact subset_of_dropMark? hdrop
  | case3 second more rest first ih =>
      exact List.Subset.trans (ih hdrop) (List.subset_cons_self _ _)
  | case4 => cases hdrop
  | case5 => cases hdrop

@[grind →]
theorem subset_of_dropWord? {name : String} (hdrop : dropWord? name tokens = some rest) :
    rest ⊆ tokens := by
  unfold dropWord? at hdrop
  grind

@[grind →]
theorem subset_of_dropLifetime? {found : String × List Token}
    (hdrop : dropLifetime? tokens = some found) : found.2 ⊆ tokens := by
  unfold dropLifetime? at hdrop
  grind

@[grind →]
theorem subset_of_dropLiteral? {found : List Token × List Token}
    (hdrop : dropLiteral? tokens = some found) : found.2 ⊆ tokens := by
  unfold dropLiteral? at hdrop
  grind

theorem getD_dropOperator?_subset (marks : List Char) (tokens : List Token) :
    (dropOperator? marks tokens).getD tokens ⊆ tokens := by
  cases hdrop : dropOperator? marks tokens with
  | none => exact List.Subset.refl tokens
  | some rest => exact subset_of_dropOperator? hdrop

theorem getD_dropWord?_subset (name : String) (tokens : List Token) :
    (dropWord? name tokens).getD tokens ⊆ tokens := by
  cases hdrop : dropWord? name tokens with
  | none => exact List.Subset.refl tokens
  | some rest => exact subset_of_dropWord? hdrop

end MarkedRoutes.Source
