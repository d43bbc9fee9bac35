import MarkedRoutes.Generated.File
import MarkedRoutes.Proofs.Results
import MarkedRoutes.Source.Lexer
import Mathlib.Data.List.TakeWhile

/-!
# Paths that can be written

A path that is kept as text can be written in generated code when it has tokens.
A path of plain names always has: every name has a bare or a raw form.
-/

namespace MarkedRoutes

open MarkedRoutes.Source
open MarkedRoutes.Text

/-! ### Writing a path -/

theorem isOk_pathTokens_of_isSome [SourceParser] {text : String}
    (hpath : (pathOfText? text).isSome = true) :
    (pathTokens text).isOk = true := by
  obtain ⟨path, hpath⟩ := Option.isSome_iff_exists.mp hpath
  rw [pathTokens, hpath]
  rfl

theorem isOk_segmentNameTokens (pieces : List (List Char)) :
    (segmentNameTokens pieces).isOk =
      pieces.all fun piece => (segmentName (String.ofList piece)).isOk := by
  fun_induction segmentNameTokens pieces with
  | case1 => rfl
  | case2 last => rw [isOk_map, List.all_cons, List.all_nil, Bool.and_true]
  | case3 first second rest ih =>
      rw [List.all_cons]
      apply isOk_bind
      intro name
      rw [← ih]
      exact isOk_bind_of_isOk fun _ => rfl

/-! ### Plain names -/

/-- A name that a path can be made of: one word, which may be a keyword. -/
structure IsPlainName (name : String) : Prop where
  isBare : isBareName name = true
  ne_underscore : name ≠ "_"

instance (name : String) : Decidable (IsPlainName name) :=
  decidable_of_iff (isBareName name = true ∧ name ≠ "_")
    ⟨fun ⟨hbare, hne⟩ => ⟨hbare, hne⟩, fun hplain => ⟨hplain.isBare, hplain.ne_underscore⟩⟩

/-- The names of a path, without the `::` that may stand in front of them. -/
def namesOfPath (text : String) : List String :=
  (splitOnColons ((dropFront? [':', ':'] text.toList).getD text.toList)).map String.ofList

/-- A path of plain names, perhaps with `::` in front. -/
def IsPlainPath (text : String) : Prop := ∀ name ∈ namesOfPath text, IsPlainName name

instance (text : String) : Decidable (IsPlainPath text) :=
  inferInstanceAs (Decidable (∀ name ∈ namesOfPath text, IsPlainName name))

/-- A plain name has a bare or a raw form. -/
theorem IsPlainName.isOk_segmentName {name : String} (hplain : IsPlainName name) :
    (segmentName name).isOk = true := by
  rw [segmentName, hplain.isBare]
  split_ifs with hbare hword hraw
  · cases hbare
  · rfl
  · rcases Bool.or_eq_true_iff.mp hraw with hplace | hunderscore
    · exact absurd (Bool.or_eq_true_iff.mpr (Or.inr hplace)) hword
    · exact absurd (beq_iff_eq.mp hunderscore) hplain.ne_underscore
  · rfl

/-- A name has a form in which it can be written when it is plain. -/
theorem isOk_segmentName_iff {name : String} :
    (segmentName name).isOk = true ↔ IsPlainName name := by
  refine ⟨fun hok => ⟨?_, ?_⟩, IsPlainName.isOk_segmentName⟩
  · cases hbare : isBareName name with
    | true => rfl
    | false =>
        rw [segmentName, hbare] at hok
        cases hok
  · rintro rfl
    have hunderscore : (segmentName "_").isOk = false := by decide +kernel
    rw [hunderscore] at hok
    cases hok

/-- Where a text is no path as it stands, its names are written one by one. -/
theorem pathTokens_of_none [SourceParser] {text : String} (hnone : pathOfText? text = none) :
    pathTokens text =
      (segmentNameTokens ((namesOfPath text).map String.toList)).map fun tokens =>
        (if (dropFront? [':', ':'] text.toList).isSome then operator [':', ':'] else []) ++
          tokens := by
  have hnames : (namesOfPath text).map String.toList =
      splitOnColons ((dropFront? [':', ':'] text.toList).getD text.toList) := by
    rw [namesOfPath, List.map_map]
    exact (List.map_congr_left fun piece _ => String.toList_ofList).trans (List.map_id _)
  rw [pathTokens, hnone, hnames]
  dsimp only
  cases dropFront? [':', ':'] text.toList with
  | some rest => rfl
  | none =>
      rw [Option.getD_none]
      cases segmentNameTokens (splitOnColons text.toList) <;> rfl

/-- A text has tokens when it is a path as it stands, or made of plain names. -/
theorem isOk_pathTokens_iff [SourceParser] {text : String} :
    (pathTokens text).isOk = true ↔ (pathOfText? text).isSome = true ∨ IsPlainPath text := by
  cases hpath : pathOfText? text with
  | some path =>
      rw [pathTokens, hpath]
      exact iff_of_true rfl (Or.inl rfl)
  | none =>
      rw [pathTokens_of_none hpath, isOk_map, isOk_segmentNameTokens, List.all_eq_true,
        List.forall_mem_map, Option.isSome_none, or_iff_right Bool.false_ne_true]
      refine forall₂_congr fun name _ => ?_
      rw [String.ofList_toList, isOk_segmentName_iff]

end MarkedRoutes
