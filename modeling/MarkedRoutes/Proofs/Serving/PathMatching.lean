import MarkedRoutes.Proofs.Serving.TemplatePattern
import Mathlib.Data.List.Forall2
import Mathlib.Data.List.TakeWhile

/-!
# Matching a path segment by segment

The pattern of a template is compared with a matcher that goes from part to part
and from slash to slash.  `choose` keeps an optional placeholder whenever the
rest of the path can then be matched.  What it chooses is the one selection of
`IsPreferred`: the parts are spelled by the path, and going left to right every
optional placeholder is kept that some spelling of the path keeps.
-/

namespace MarkedRoutes.Serving

open MarkedRoutes.Text

/-! ### Selections -/

/-- For each part of a template the piece of a path that it takes, if it is kept. -/
abbrev Selection := List (Option (List Char))

/-- Whether a part can take a piece, or be left out. -/
def Fits : Part → Option (List Char) → Prop
  | .literal text, piece => piece = some text.toList
  | .placeholder _ _, some piece => piece ≠ [] ∧ '/' ∉ piece
  | .placeholder _ isOptional, none => isOptional = true

/-- The kept pieces of a selection, a slash in front of each. -/
def spell (selection : Selection) : List Char :=
  selection.flatMap fun kept =>
    match kept with
    | some piece => '/' :: piece
    | none => []

/-- A path spells parts by a selection when it consists of the pieces that the parts take,
with at most one slash behind them. -/
structure Spells (parts : List Part) (path : List Char) (selection : Selection) : Prop where
  fits : List.Forall₂ Fits parts selection
  path_eq : path = spell selection ∨ path = spell selection ++ ['/']

/-- Whether the part at an index is kept. -/
def keeps (selection : Selection) (index : ℕ) : Bool := selection[index]?.join.isSome

/-- The first selection keeps every part that the second keeps, as long as they agree. -/
def KeepsWhere (selection other : Selection) : Prop :=
  ∀ index, (∀ earlier < index, keeps other earlier = keeps selection earlier) →
    keeps other index = true → keeps selection index = true

/-- A selection by which a path spells parts, and which keeps, going left to right, every
part that is kept by some other one that agrees with it so far. -/
structure IsPreferred (parts : List Part) (path : List Char) (selection : Selection) :
    Prop where
  spells : Spells parts path selection
  keepsWhere : ∀ other, Spells parts path other → KeepsWhere selection other

/-! ### Pieces -/

/-- What stands before the first slash of a text. -/
def firstPiece (text : List Char) : List Char := text.takeWhile (· != '/')

/-- What is left from the first slash on. -/
def afterPiece (text : List Char) : List Char := text.dropWhile (· != '/')

/-- A text that has nothing before its first slash. -/
def StopsAtSlash (text : List Char) : Prop := text = [] ∨ ∃ rest, text = '/' :: rest

theorem firstPiece_append_afterPiece (text : List Char) :
    firstPiece text ++ afterPiece text = text :=
  List.takeWhile_append_dropWhile

theorem slash_notMem_firstPiece (text : List Char) : '/' ∉ firstPiece text := by
  intro hmem
  have hne := List.mem_takeWhile_imp hmem
  exact absurd hne (by decide)

/-- A piece without slashes is split off again. -/
theorem split_append {piece rest : List Char} (hpiece : '/' ∉ piece) (hrest : StopsAtSlash rest) :
    firstPiece (piece ++ rest) = piece ∧ afterPiece (piece ++ rest) = rest := by
  have hall : ∀ c ∈ piece, (c != '/') = true := by
    intro c hc
    exact bne_iff_ne.mpr fun heq => hpiece (heq ▸ hc)
  have hstop : rest.takeWhile (· != '/') = [] ∧ rest.dropWhile (· != '/') = rest := by
    rcases hrest with rfl | ⟨tail, rfl⟩
    · exact ⟨rfl, rfl⟩
    · exact ⟨rfl, rfl⟩
  constructor
  · rw [firstPiece, List.takeWhile_append_of_pos hall, hstop.1, List.append_nil]
  · rw [afterPiece, List.dropWhile_append_of_pos hall, hstop.2]

theorem stopsAtSlash_spell (selection : Selection) (ending : List Char)
    (hending : StopsAtSlash ending) : StopsAtSlash (spell selection ++ ending) := by
  induction selection with
  | nil => exact hending
  | cons kept selection ih =>
      cases kept with
      | none => exact ih
      | some piece => exact Or.inr ⟨piece ++ spell selection ++ ending, by simp [spell]⟩

/-! ### Choosing -/

/-- Whether a part can take a piece that has no slash. -/
def admits : Part → List Char → Bool
  | .literal text, piece => text.toList == piece
  | .placeholder _ _, piece => !piece.isEmpty

/-- Whether a part can be left out. -/
def isOptional : Part → Bool
  | .literal _ => false
  | .placeholder _ isOptional => isOptional

/-- Gives the pieces of a path to parts in order.  A part that can be left out is kept when
the rest can be matched behind it. -/
def choose : List Part → List Char → Option Selection
  | [], path => if path = [] ∨ path = ['/'] then some [] else none
  | part :: parts, path =>
    let kept := (dropFront? ['/'] path).bind fun text =>
      if admits part (firstPiece text) then
        (choose parts (afterPiece text)).map (some (firstPiece text) :: ·)
      else none
    kept.or (if isOptional part then (choose parts path).map (none :: ·) else none)

theorem fits_some_iff {part : Part} {piece : List Char} (hpiece : '/' ∉ piece) :
    Fits part (some piece) ↔ admits part piece = true := by
  cases part with
  | literal text => rw [Fits, admits, beq_iff_eq, Option.some_inj, eq_comm]
  | placeholder name isOptional => simp [Fits, admits, hpiece]

theorem fits_none_iff {part : Part} : Fits part none ↔ isOptional part = true := by
  cases part with
  | literal text => simp [Fits, isOptional]
  | placeholder name optional => simp [Fits, isOptional]

theorem choose_nil_eq_some_iff {path : List Char} {selection : Selection} :
    choose [] path = some selection ↔ (path = [] ∨ path = ['/']) ∧ selection = [] := by
  rw [choose]
  split
  · next hpath => simp [hpath, eq_comm]
  · next hpath => simp [hpath]

/-- The first part is kept and takes the first piece, or it is left out. -/
theorem choose_cons_cases {part : Part} {parts : List Part} {path : List Char}
    {selection : Selection} (hchoose : choose (part :: parts) path = some selection) :
    (∃ text rest, path = '/' :: text ∧ admits part (firstPiece text) = true ∧
      choose parts (afterPiece text) = some rest ∧
      selection = some (firstPiece text) :: rest) ∨
    (isOptional part = true ∧ ∃ rest, choose parts path = some rest ∧
      selection = none :: rest) := by
  rw [choose, Option.or_eq_some_iff] at hchoose
  rcases hchoose with hkept | ⟨-, hleft⟩
  · obtain ⟨text, hpath, hkept⟩ := Option.bind_eq_some_iff.mp hkept
    rw [Option.ite_none_right_eq_some] at hkept
    obtain ⟨rest, hrest, hselection⟩ := Option.map_eq_some_iff.mp hkept.2
    exact Or.inl ⟨text, rest, dropFront?_eq_some_iff.mp hpath, hkept.1, hrest,
      hselection.symm⟩
  · rw [Option.ite_none_right_eq_some] at hleft
    obtain ⟨rest, hrest, hselection⟩ := Option.map_eq_some_iff.mp hleft.2
    exact Or.inr ⟨hleft.1, rest, hrest, hselection.symm⟩

/-- Only what begins with a slash, or is empty, can be matched. -/
theorem stopsAtSlash_of_choose {parts : List Part} {path : List Char} {selection : Selection}
    (hchoose : choose parts path = some selection) : StopsAtSlash path := by
  induction parts generalizing selection with
  | nil => exact (choose_nil_eq_some_iff.mp hchoose).1.imp id fun heq => ⟨[], heq⟩
  | cons part parts ih =>
      rcases choose_cons_cases hchoose with ⟨text, -, hpath, -⟩ | ⟨-, rest, hrest, -⟩
      · exact Or.inr ⟨text, hpath⟩
      · exact ih hrest

/-- What is chosen spells the path. -/
theorem spells_of_choose {parts : List Part} {path : List Char} {selection : Selection}
    (hchoose : choose parts path = some selection) : Spells parts path selection := by
  induction parts generalizing path selection with
  | nil =>
      obtain ⟨hpath, rfl⟩ := choose_nil_eq_some_iff.mp hchoose
      exact ⟨List.Forall₂.nil, hpath⟩
  | cons part parts ih =>
      rcases choose_cons_cases hchoose with
        ⟨text, rest, rfl, hadmits, hrest, rfl⟩ | ⟨hoptional, rest, hrest, rfl⟩
      · obtain ⟨hfits, hspelled⟩ := ih hrest
        have hpiece := slash_notMem_firstPiece text
        refine ⟨List.Forall₂.cons ((fits_some_iff hpiece).mpr hadmits) hfits, ?_⟩
        have hspell : spell (some (firstPiece text) :: rest) =
            '/' :: firstPiece text ++ spell rest := rfl
        have htext := firstPiece_append_afterPiece text
        rw [hspell]
        rcases hspelled with heq | heq
        · left
          rw [List.cons_append, ← heq, htext]
        · right
          rw [List.cons_append, List.cons_append, List.append_assoc, ← heq, htext]
      · obtain ⟨hfits, hspelled⟩ := ih hrest
        exact ⟨List.Forall₂.cons (fits_none_iff.mpr hoptional) hfits, hspelled⟩

/-- Parts whose literals have no slash, as splitting leaves them. -/
def Slashless (parts : List Part) : Prop :=
  ∀ text, Part.literal text ∈ parts → '/' ∉ text.toList

theorem slash_notMem_of_fits {part : Part} {piece : List Char}
    (hliteral : ∀ text, part = .literal text → '/' ∉ text.toList)
    (hfits : Fits part (some piece)) : '/' ∉ piece := by
  cases part with
  | literal text =>
      obtain rfl := Option.some.inj hfits
      exact hliteral text rfl
  | placeholder name isOptional => exact hfits.2

theorem choose_cons_kept {part : Part} {parts : List Part} {text : List Char}
    {rest : Selection} (hadmits : admits part (firstPiece text) = true)
    (hrest : choose parts (afterPiece text) = some rest) :
    choose (part :: parts) ('/' :: text) = some (some (firstPiece text) :: rest) := by
  rw [choose, dropFront?_singleton_cons, if_pos rfl, Option.bind_some, if_pos hadmits, hrest]
  rfl

theorem choose_cons_isSome {part : Part} {parts : List Part} {path : List Char}
    {rest : Selection} (hoptional : isOptional part = true)
    (hrest : choose parts path = some rest) :
    ∃ selection, choose (part :: parts) path = some selection := by
  rw [choose, if_pos hoptional, hrest, Option.map_some, Option.or_some]
  exact ⟨_, rfl⟩

theorem KeepsWhere.cons {selection other : Selection} (hkeeps : KeepsWhere selection other)
    (first second : Option (List Char)) (hfirst : first.isSome = second.isSome) :
    KeepsWhere (first :: selection) (second :: other) := by
  intro index hagree hkept
  cases index with
  | zero => exact hfirst.trans hkept
  | succ index =>
      exact hkeeps index (fun earlier hlt => hagree (earlier + 1) (Nat.succ_lt_succ hlt)) hkept

theorem keepsWhere_some_none (piece : List Char) (selection other : Selection) :
    KeepsWhere (some piece :: selection) (none :: other) := by
  intro index hagree hkept
  cases index with
  | zero => rfl
  | succ index => exact absurd (hagree 0 (Nat.succ_pos index)) Bool.false_ne_true

/-- Whatever spells a path, something is chosen for it, and that keeps what can be kept. -/
theorem choose_of_spells {parts : List Part} {path : List Char} {other : Selection}
    (hslashless : Slashless parts) (hspells : Spells parts path other) :
    ∃ selection, choose parts path = some selection ∧ KeepsWhere selection other := by
  induction parts generalizing path other with
  | nil =>
      obtain ⟨hfits, hpath⟩ := hspells
      obtain rfl := List.forall₂_nil_left_iff.mp hfits
      exact ⟨[], choose_nil_eq_some_iff.mpr ⟨hpath, rfl⟩, fun _ _ hkept => hkept⟩
  | cons part parts ih =>
      obtain ⟨hfits, hpath⟩ := hspells
      obtain ⟨kept, others, hkept, hothers, rfl⟩ := List.forall₂_cons_left_iff.mp hfits
      have hparts : Slashless parts := fun text hmem =>
        hslashless text (List.mem_cons_of_mem part hmem)
      cases kept with
      | some piece =>
          have hpiece : '/' ∉ piece := slash_notMem_of_fits
            (fun text heq => hslashless text (heq ▸ List.mem_cons_self)) hkept
          obtain ⟨ending, hending, hspelled⟩ : ∃ ending, StopsAtSlash ending ∧
              path = '/' :: (piece ++ (spell others ++ ending)) ∧
              (ending = [] ∨ ending = ['/']) := by
            rcases hpath with heq | heq
            · exact ⟨[], Or.inl rfl, by simp [heq, spell], Or.inl rfl⟩
            · exact ⟨['/'], Or.inr ⟨[], rfl⟩, by simp [heq, spell], Or.inr rfl⟩
          obtain ⟨rfl, hcases⟩ := hspelled
          obtain ⟨hfirst, hafter⟩ := split_append hpiece (stopsAtSlash_spell others ending hending)
          have hbehind : Spells parts (spell others ++ ending) others := by
            refine ⟨hothers, ?_⟩
            rcases hcases with rfl | rfl
            · exact Or.inl (List.append_nil _)
            · exact Or.inr rfl
          obtain ⟨rest, hrest, hkeeps⟩ := ih hparts hbehind
          rw [← hafter] at hrest
          have hadmits : admits part (firstPiece (piece ++ (spell others ++ ending))) = true := by
            rw [hfirst]
            exact (fits_some_iff hpiece).mp hkept
          exact ⟨_, choose_cons_kept hadmits hrest, hkeeps.cons _ _ rfl⟩
      | none =>
          obtain ⟨rest, hrest, hkeeps⟩ := ih hparts ⟨hothers, hpath⟩
          obtain ⟨selection, hselection⟩ :=
            choose_cons_isSome (fits_none_iff.mp hkept) hrest
          refine ⟨selection, hselection, ?_⟩
          rcases choose_cons_cases hselection with
            ⟨text, behind, -, -, -, rfl⟩ | ⟨-, behind, hbehind, rfl⟩
          · exact keepsWhere_some_none _ _ _
          · obtain rfl := Option.some.inj (hrest.symm.trans hbehind)
            exact hkeeps.cons none none rfl

/-- The matcher chooses the preferred selection, and finds one whenever there is one. -/
theorem isPreferred_of_choose {parts : List Part} {path : List Char} {selection : Selection}
    (hslashless : Slashless parts) (hchoose : choose parts path = some selection) :
    IsPreferred parts path selection := by
  refine ⟨spells_of_choose hchoose, fun other hother => ?_⟩
  obtain ⟨chosen, hchosen, hkeeps⟩ := choose_of_spells hslashless hother
  obtain rfl := Option.some.inj (hchosen.symm.trans hchoose)
  exact hkeeps

theorem choose_eq_none_iff {parts : List Part} {path : List Char}
    (hslashless : Slashless parts) :
    choose parts path = none ↔ ∀ selection, ¬ Spells parts path selection := by
  constructor
  · intro hnone selection hspells
    obtain ⟨chosen, hchosen, -⟩ := choose_of_spells hslashless hspells
    rw [hnone] at hchosen
    exact absurd hchosen (by simp)
  · intro hnone
    cases hchoose : choose parts path with
    | none => rfl
    | some selection => exact absurd (spells_of_choose hchoose) (hnone selection)

end MarkedRoutes.Serving
