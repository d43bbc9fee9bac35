import MarkedRoutes.Generated.Name
import MarkedRoutes.Proofs.Source.ProgramGrammar

/-!
# Names that are identifiers

A name that is put together from a front such as `register_`, from identifiers and from numbers is
an identifier: every character can stand inside of one, and no keyword begins with the front.
-/

namespace MarkedRoutes.Source

open MarkedRoutes.Text

/-! ### Characters of identifiers -/

/-- The ranges that are left over when each wider range in turn takes those in front that it
covers. -/
def uncovered (wides ranges : List (ℕ × ℕ)) : List (ℕ × ℕ) :=
  wides.foldl (fun left wide => left.dropWhile fun range =>
    Nat.ble wide.1 range.1 && Nat.ble range.2 wide.2) ranges

theorem exists_covering {wides ranges : List (ℕ × ℕ)} (hcovered : uncovered wides ranges = [])
    {range : ℕ × ℕ} (hmem : range ∈ ranges) :
    ∃ wide ∈ wides, wide.1 ≤ range.1 ∧ range.2 ≤ wide.2 := by
  induction wides generalizing ranges with
  | nil =>
      obtain rfl : ranges = [] := hcovered
      cases hmem
  | cons first wides ih =>
      rw [← List.takeWhile_append_dropWhile
        (p := fun range => Nat.ble first.1 range.1 && Nat.ble range.2 first.2)
        (l := ranges)] at hmem
      rcases List.mem_append.mp hmem with htaken | hleft
      · have hcovers := List.mem_takeWhile_imp htaken
        rw [Bool.and_eq_true, Nat.ble_eq, Nat.ble_eq] at hcovers
        exact ⟨first, List.mem_cons_self, hcovers⟩
      · obtain ⟨wide, hwide, hcovers⟩ := ih hcovered hleft
        exact ⟨wide, List.mem_cons_of_mem first hwide, hcovers⟩

/-- What can begin an identifier can stand inside of one. -/
theorem isIdentifierContinue_of_isIdentifierStart {c : Char} (hc : isIdentifierStart c = true) :
    isIdentifierContinue c = true := by
  have hcovered : uncovered continueRanges startRanges = [] := by decide +kernel
  rw [isIdentifierStart] at hc
  rw [isIdentifierContinue]
  split_ifs at hc ⊢ with hascii
  · rw [Char.isAlphanum, Bool.or_right_comm, hc, Bool.true_or]
  · obtain ⟨range, hmem, hfirst, hlast⟩ := inRanges_iff.mp hc
    obtain ⟨wide, hwide, hleft, hright⟩ := exists_covering hcovered hmem
    exact inRanges_iff.mpr ⟨wide, hwide, hleft.trans hfirst, hlast.trans hright⟩

/-- A text whose characters can all stand inside of an identifier. -/
def ContinuesName (text : String) : Prop := ∀ c ∈ text.toList, isIdentifierContinue c = true

theorem continuesName_empty : ContinuesName "" := List.forall_mem_nil _

theorem ContinuesName.append {first second : String} (hfirst : ContinuesName first)
    (hsecond : ContinuesName second) : ContinuesName (first ++ second) := by
  rw [ContinuesName, String.toList_append]
  exact List.forall_mem_append.mpr ⟨hfirst, hsecond⟩

theorem continuesName_of_isBareName {name : String} (hname : isBareName name = true) :
    ContinuesName name := by
  rw [isBareName] at hname
  rw [ContinuesName]
  cases hchars : name.toList with
  | nil => exact List.forall_mem_nil _
  | cons first rest =>
      rw [hchars, isIdentifierText, Bool.and_eq_true, List.all_eq_true] at hname
      exact List.forall_mem_cons.mpr
        ⟨isIdentifierContinue_of_isIdentifierStart hname.1, hname.2⟩

theorem continuesName_toString (number : ℕ) : ContinuesName (toString number) := by
  intro c hc
  have hdigit : c.isDigit = true := by
    rw [Nat.toString_eq_repr, Nat.toList_repr] at hc
    exact Nat.isDigit_of_mem_toDigits (by decide) (by decide) hc
  rw [isIdentifierContinue]
  split_ifs with hascii
  · rw [Char.isAlphanum, hdigit, Bool.or_true, Bool.true_or]
  · rw [Char.isDigit, Bool.and_eq_true, decide_eq_true_eq, decide_eq_true_eq] at hdigit
    have hlast : c.toNat ≤ 57 := hdigit.2
    omega

/-! ### Identifiers with a front -/

/-- Behind a front with which no keyword begins, a name is an identifier. -/
theorem isIdentifier_append {front ending : String} (hfront : isBareName front = true)
    (hkeywords : (keywords.all fun keyword => !front.toList.isPrefixOf keyword.toList) = true)
    (hending : ContinuesName ending) : IsIdentifier (front ++ ending) := by
  refine .bare ?_ ?_
  · rw [isBareName] at hfront ⊢
    rw [String.toList_append]
    cases hchars : front.toList with
    | nil =>
        rw [hchars] at hfront
        cases hfront
    | cons first rest =>
        rw [hchars, isIdentifierText, Bool.and_eq_true] at hfront
        rw [List.cons_append, isIdentifierText, hfront.1, List.all_append, hfront.2, Bool.true_and,
          Bool.true_and, List.all_eq_true]
        exact hending
  · rw [isKeyword, Bool.eq_false_iff, ne_eq, List.contains_iff_mem]
    intro hmem
    have hother := List.all_eq_true.mp hkeywords _ hmem
    rw [Bool.not_eq_true', Bool.eq_false_iff, ne_eq, List.isPrefixOf_iff_prefix,
      String.toList_append] at hother
    exact hother (List.prefix_append _ _)

theorem isIdentifier_register {ending : String} (hending : ContinuesName ending) :
    IsIdentifier ("register_" ++ ending) :=
  isIdentifier_append (by decide +kernel) (by decide +kernel) hending

theorem isIdentifier_dispatch {ending : String} (hending : ContinuesName ending) :
    IsIdentifier ("dispatch_" ++ ending) :=
  isIdentifier_append (by decide +kernel) (by decide +kernel) hending

theorem isIdentifier_argument {ending : String} (hending : ContinuesName ending) :
    IsIdentifier ("arg_" ++ ending) :=
  isIdentifier_append (by decide +kernel) (by decide +kernel) hending

/-- A text that is an identifier without blanks around it can be written as it is. -/
theorem isIdentifier_of_identifierOfText? {text : String}
    (hsome : (identifierOfText? text).isSome = true) (hbare : isBareName (unraw text) = true) :
    IsIdentifier text := by
  rw [unraw] at hbare
  split at hbare
  · next rest htext =>
    obtain rfl : text = "r#" ++ String.ofList rest := by
      apply String.toList_injective
      rw [htext, String.toList_append]
      exact congrArg (['r', '#'] ++ ·) String.toList_ofList.symm
    refine .raw hbare ?_
    rw [Bool.eq_false_iff]
    intro hraw
    have hwords : ∀ name ∈ ["crate", "self", "super", "Self", "_"],
        identifierOfText? ("r#" ++ name) = none := by decide +kernel
    have hmem : String.ofList rest ∈ ["crate", "self", "super", "Self", "_"] := by
      simpa only [hasNoRawForm, isPathWord, Bool.or_eq_true, beq_iff_eq, List.mem_cons,
        List.not_mem_nil, or_false, or_assoc] using hraw
    rw [hwords _ hmem] at hsome
    cases hsome
  · refine .bare hbare ?_
    rw [identifierOfText?_name hbare] at hsome
    cases hkeyword : isKeyword text with
    | false => rfl
    | true =>
        rw [hkeyword] at hsome
        cases hsome

end MarkedRoutes.Source

namespace MarkedRoutes

open MarkedRoutes.Source

/-- A name that is given is the wanted name with characters of identifiers behind it. -/
theorem NameTable.exists_continuing (table : NameTable) (name : String) :
    ∃ ending, ContinuesName ending ∧ (table.allocate name).1 = name ++ ending := by
  change ∃ ending, ContinuesName ending ∧ table.nameFor name = name ++ ending
  rw [nameFor]
  split_ifs
  · have hunderscore : isBareName "_" = true := by decide +kernel
    exact ⟨_, (continuesName_of_isBareName hunderscore).append (continuesName_toString _),
      String.append_assoc⟩
  · exact ⟨"", continuesName_empty, String.append_empty.symm⟩

end MarkedRoutes
