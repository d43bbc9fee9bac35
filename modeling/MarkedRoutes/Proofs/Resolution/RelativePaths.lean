import MarkedRoutes.Proofs.Resolution.MountedPaths

/-!
# Relative paths

A path that is read in a module may begin with any mixture of `self` and `super`.  Each `super`
leaves one module, but never the outermost one, and what stands behind these words is read in the
module that they lead to.  The result of a reading is absolute when the module is, so reading it
again changes nothing, wherever that happens.
-/

namespace MarkedRoutes

open MarkedRoutes.Text

/-- A word that leads a path: `self` stays in the module, `super` leaves it. -/
inductive LeadWord where
  | self
  | super
  deriving DecidableEq, Repr

/-- The word as it is written, with the `::` behind it. -/
def LeadWord.text : LeadWord → List Char
  | self => "self::".toList
  | super => "super::".toList

def leadText (lead : List LeadWord) : List Char := lead.flatMap LeadWord.text

/-- What stands behind the leading words of a path: it begins with no further such word, and it is
no absolute path when there are none. -/
structure IsRest (lead : List LeadWord) (rest : List Char) : Prop where
  noSelf : ¬ LeadWord.self.text <+: rest
  noSuper : ¬ LeadWord.super.text <+: rest
  noCrate : lead = [] → ¬ "crate::".toList <+: rest
  noRoot : lead = [] → ¬ "::".toList <+: rest

instance (lead : List LeadWord) (rest : List Char) : Decidable (IsRest lead rest) :=
  decidable_of_iff (¬ LeadWord.self.text <+: rest ∧ ¬ LeadWord.super.text <+: rest ∧
      (lead = [] → ¬ "crate::".toList <+: rest) ∧ (lead = [] → ¬ "::".toList <+: rest))
    ⟨fun ⟨hself, hsuper, hcrate, hroot⟩ => ⟨hself, hsuper, hcrate, hroot⟩,
      fun hrest => ⟨hrest.noSelf, hrest.noSuper, hrest.noCrate, hrest.noRoot⟩⟩

def moduleSegments (modulePath : String) : List String :=
  (splitOnColons modulePath.toList).map String.ofList

/-- A module path that begins at the root of a crate. -/
def IsAnchored (modulePath : String) : Prop :=
  modulePath = "crate" ∨ "crate::".toList <+: modulePath.toList ∨ "::".toList <+: modulePath.toList

instance (modulePath : String) : Decidable (IsAnchored modulePath) :=
  inferInstanceAs (Decidable (_ ∨ _ ∨ _))

variable {lead : List LeadWord} {rest written : List Char} {segments : List (List Char)}

theorem dropFront?_eq_none_iff {expected text : List Char} :
    dropFront? expected text = none ↔ ¬ expected <+: text := by
  rw [Option.eq_none_iff_forall_ne_some]
  constructor
  · rintro hnone ⟨rest, rfl⟩
    exact hnone rest (dropFront?_eq_some_iff.mpr rfl)
  · rintro hnone rest hsome
    exact hnone ⟨rest, (dropFront?_eq_some_iff.mp hsome).symm⟩

theorem isAbsolute_iff :
    isAbsolute written = true ↔ "crate::".toList <+: written ∨ "::".toList <+: written := by
  simp only [isAbsolute, Bool.or_eq_true, Option.isSome_iff_ne_none, ne_eq,
    dropFront?_eq_none_iff, not_not]

/-! ### Segments of a module -/

/-! ### Climbing -/

theorem parentModule_eq (hne : segments ≠ []) :
    parentModule segments = segments.take (max 1 (segments.length - 1)) := by
  have hlength := List.length_pos_of_ne_nil hne
  rw [parentModule]
  split_ifs with hmore
  · rw [List.dropLast_eq_take, Nat.max_eq_right (Nat.le_sub_of_add_le hmore)]
  · rw [List.take_of_length_le (by omega)]

/-- Leading words are applied one after the other, and none of them leaves the outermost
module. -/
theorem climb_leadText {fuel : ℕ} (hne : segments ≠ []) (hfuel : lead.length ≤ fuel)
    (hrest : IsRest lead rest) :
    climb fuel segments (leadText lead ++ rest) =
      (segments.take (max 1 (segments.length - lead.count .super)), rest) := by
  have hlength := List.length_pos_of_ne_nil hne
  have hself := dropFront?_eq_none_iff.mpr hrest.noSelf
  have hsuper := dropFront?_eq_none_iff.mpr hrest.noSuper
  clear hrest
  induction lead generalizing fuel segments with
  | nil =>
      have hall : segments.take (max 1 (segments.length - 0)) = segments :=
        List.take_of_length_le (by omega)
      rw [List.count_nil, hall]
      cases fuel with
      | zero => rfl
      | succ fuel =>
          have hnothing : leadText [] ++ rest = rest := rfl
          rw [hnothing, climb, show dropFront? "self::".toList rest = none from hself,
            show dropFront? "super::".toList rest = none from hsuper]
  | cons word lead ih =>
      obtain ⟨fuel, rfl⟩ : ∃ less, fuel = less + 1 :=
        Nat.exists_eq_add_of_le' (Nat.le_trans (Nat.le_add_left 1 lead.length) hfuel)
      have hless : lead.length ≤ fuel := Nat.le_of_succ_le_succ hfuel
      have htext : leadText (word :: lead) ++ rest = word.text ++ (leadText lead ++ rest) := by
        rw [leadText, List.flatMap_cons, List.append_assoc, leadText]
      rw [htext]
      cases word with
      | self =>
          have hstays : dropFront? "self::".toList (LeadWord.self.text ++ (leadText lead ++ rest)) =
              some (leadText lead ++ rest) := dropFront?_eq_some_iff.mpr rfl
          rw [climb, hstays, List.count_cons_of_ne (by decide)]
          exact ih hne hless hlength
      | super =>
          have hstays : dropFront? "self::".toList
              (LeadWord.super.text ++ (leadText lead ++ rest)) = none := rfl
          have hleaves : dropFront? "super::".toList
              (LeadWord.super.text ++ (leadText lead ++ rest)) = some (leadText lead ++ rest) :=
            dropFront?_eq_some_iff.mpr rfl
          have hparent := parentModule_eq hne
          have hkept : (parentModule segments).length = max 1 (segments.length - 1) := by
            rw [hparent, List.length_take]
            omega
          have hparentNe : parentModule segments ≠ [] := by
            rw [← List.length_pos_iff, hkept]
            omega
          rw [climb, hstays, hleaves, List.count_cons_self]
          dsimp only
          rw [ih hparentNe hless (List.length_pos_of_ne_nil hparentNe), hkept, hparent,
            List.take_take]
          congr 2
          omega

/-- Climbing never leaves the outermost module. -/
theorem head?_climb (fuel : ℕ) (segments : List (List Char)) (written : List Char) :
    (climb fuel segments written).1.head? = segments.head? := by
  have hparent (segments : List (List Char)) :
      (parentModule segments).head? = segments.head? := by
    rw [parentModule]
    split_ifs with hmore
    · rcases segments with _ | ⟨first, _ | ⟨second, more⟩⟩
      · rfl
      · exact absurd hmore (Nat.lt_irrefl 1)
      · rfl
    · rfl
  fun_induction climb fuel segments written with
  | case1 => rfl
  | case2 fuel segments rest tail hself ih => exact ih
  | case3 fuel segments rest hself tail hsuper ih => exact ih.trans (hparent segments)
  | case4 => rfl

/-! ### Reading -/

theorem absolutePath_of_isAbsolute {modulePath written : String}
    (habsolute : isAbsolute written.toList = true) : absolutePath modulePath written = written := by
  rw [absolutePath, if_pos habsolute]

theorem isAbsolute_leadText (hrest : IsRest lead rest) :
    isAbsolute (leadText lead ++ rest) = false := by
  cases lead with
  | nil =>
      rw [Bool.eq_false_iff, ne_eq, isAbsolute_iff, not_or]
      exact ⟨hrest.noCrate rfl, hrest.noRoot rfl⟩
  | cons word lead => cases word <;> rfl

/-- The first segment of a module path that begins at the root of a crate. -/
theorem head?_splitOnColons {modulePath : String} (hanchored : IsAnchored modulePath) :
    (splitOnColons modulePath.toList).head? = some "crate".toList ∨
      (splitOnColons modulePath.toList).head? = some [] := by
  have hcrate : ':' ∉ "crate".toList := by decide
  rcases hanchored with rfl | ⟨more, hmore⟩ | ⟨more, hmore⟩
  · exact Or.inl rfl
  · rw [← hmore]
    exact Or.inl (congrArg List.head? (splitOnColons_append hcrate))
  · rw [← hmore]
    exact Or.inr (congrArg List.head? (splitOnColons_append List.not_mem_nil))

/-- What is read in a module that begins at the root of a crate is absolute. -/
theorem isAbsolute_absolutePath {modulePath : String} (hanchored : IsAnchored modulePath)
    (written : String) : isAbsolute (absolutePath modulePath written).toList = true := by
  have hhead := head?_splitOnColons hanchored
  rw [← head?_climb written.length _ written.toList] at hhead
  rw [absolutePath]
  split_ifs with habsolute
  · exact habsolute
  · rcases hclimb : climb written.length (splitOnColons modulePath.toList) written.toList with
      ⟨reached, rest⟩
    rw [hclimb] at hhead
    dsimp only at hhead ⊢
    rw [String.toList_ofList, isAbsolute_iff]
    cases reached with
    | nil => rcases hhead with hhead | hhead <;> cases hhead
    | cons first names =>
        obtain ⟨more, hmore⟩ : ∃ more, join [':', ':'] (first :: names) ++ ':' :: ':' :: rest =
            first ++ ':' :: ':' :: more := by
          cases names with
          | nil => exact ⟨rest, rfl⟩
          | cons second names =>
              rw [join_cons _ first (List.cons_ne_nil _ _), List.append_assoc, List.append_assoc]
              exact ⟨_, rfl⟩
        rw [hmore]
        rcases hhead with hhead | hhead
        · obtain rfl := Option.some.inj hhead
          exact Or.inl ⟨more, rfl⟩
        · obtain rfl := Option.some.inj hhead
          exact Or.inr ⟨more, rfl⟩

/-- A path that begins with any mixture of `self` and `super` is read in the module that these
lead to, and the outermost module is never left.  What is read in a module that begins at the
root of a crate is the same in every module. -/
theorem absolutePath_reads (modulePath : String) :
    (∀ (lead : List LeadWord) (rest : String), IsRest lead rest.toList →
      absolutePath modulePath (String.ofList (leadText lead) ++ rest) =
        joinTexts "::" ((moduleSegments modulePath).take
          (max 1 ((moduleSegments modulePath).length - lead.count .super)) ++ [rest])) ∧
    (IsAnchored modulePath → ∀ other written : String,
      absolutePath other (absolutePath modulePath written) = absolutePath modulePath written) := by
  refine ⟨fun lead rest hrest => ?_, fun hanchored other written =>
    absolutePath_of_isAbsolute (isAbsolute_absolutePath hanchored written)⟩
  have hsegments := splitOnColons_ne_nil modulePath.toList
  have htext : (String.ofList (leadText lead) ++ rest).toList = leadText lead ++ rest.toList := by
    rw [String.toList_append, String.toList_ofList]
  have hwords (lead : List LeadWord) : lead.length ≤ (leadText lead).length := by
    induction lead with
    | nil => exact Nat.zero_le _
    | cons word lead ih =>
        rw [leadText, List.flatMap_cons, List.length_append, List.length_cons]
        have hword : 1 ≤ word.text.length := by cases word <;> decide
        exact Nat.add_comm lead.length 1 ▸ Nat.add_le_add hword ih
  have hfuel : lead.length ≤ (String.ofList (leadText lead) ++ rest).length := by
    rw [← String.length_toList, htext, List.length_append]
    exact Nat.le_trans (hwords lead) (Nat.le_add_right _ _)
  have hreached : (moduleSegments modulePath).take
      (max 1 ((moduleSegments modulePath).length - lead.count .super)) ≠ [] := by
    rw [← List.length_pos_iff, List.length_take, moduleSegments, List.length_map]
    have := List.length_pos_of_ne_nil hsegments
    omega
  rw [absolutePath, htext, isAbsolute_leadText hrest, if_neg Bool.false_ne_true,
    climb_leadText hsegments hfuel hrest, joinTexts_append (List.cons_ne_nil _ _) hreached,
    moduleSegments, List.length_map, ← List.map_take, List.map_map]
  simp only [Function.comp_def, String.toList_ofList, List.map_id']
  rfl

theorem absolutePath_reads_shelves :
    absolutePath "crate::routes::shelves" "super::self::super::super::Isbn" = "crate::Isbn" ∧
      absolutePath "crate" (absolutePath "crate::routes::shelves" "self::super::Isbn") =
        "crate::routes::Isbn" := by
  have hreads := absolutePath_reads "crate::routes::shelves"
  refine ⟨hreads.1 [.super, .self, .super, .super] "Isbn" (by decide), ?_⟩
  rw [hreads.2 (by decide)]
  exact hreads.1 [.self, .super] "Isbn" (by decide)

end MarkedRoutes
