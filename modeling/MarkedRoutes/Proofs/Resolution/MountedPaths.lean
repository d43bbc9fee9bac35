import MarkedRoutes.Proofs.Resolution.NamedConverters

/-!
# Paths under a mount

A source is mounted at a module path, and its modules stand below it.  A path that is written in
one of them and does not climb out of the source is read the same under every mount: it is the
mount, and behind it what is read when nothing stands in front of the source.
-/

namespace MarkedRoutes

open MarkedRoutes.Source
open MarkedRoutes.Text

/-! ### Climbing -/

/-- The `self` and `super` that lead a path. -/
def leadingSteps (written : List Char) : List (List Char) :=
  (splitOnColons written).dropLast.takeWhile fun piece =>
    piece == "self".toList || piece == "super".toList

/-- How many modules a path climbs before it names anything. -/
def climbsOf (written : List Char) : ℕ := (leadingSteps written).count "super".toList

theorem splitOnColons_ne_nil (text : List Char) : splitOnColons text ≠ [] := by
  induction text using splitOnColons.induct with
  | case1 rest => rw [splitOnColons]; exact List.cons_ne_nil _ _
  | case2 c rest hcolons ih =>
      rw [splitOnColons]
      · cases splitOnColons rest <;> exact List.cons_ne_nil _ _
      · exact hcolons
  | case3 => exact List.cons_ne_nil _ _

theorem leadingSteps_append {step rest : List Char} (hcolon : ':' ∉ step)
    (hstep : (step == "self".toList || step == "super".toList) = true) :
    leadingSteps (step ++ ':' :: ':' :: rest) = step :: leadingSteps rest := by
  rw [leadingSteps, splitOnColons_append hcolon,
    List.dropLast_cons_of_ne_nil (splitOnColons_ne_nil rest), List.takeWhile_cons, if_pos hstep]
  rfl

theorem climbsOf_self (rest : List Char) :
    climbsOf ("self".toList ++ ':' :: ':' :: rest) = climbsOf rest := by
  rw [climbsOf, leadingSteps_append (by decide) (by decide),
    List.count_cons_of_ne (by decide)]
  rfl

theorem climbsOf_super (rest : List Char) :
    climbsOf ("super".toList ++ ':' :: ':' :: rest) = climbsOf rest + 1 := by
  rw [climbsOf, leadingSteps_append (by decide) (by decide), List.count_cons_self]
  rfl

/-- The module around the last of some modules, when others stand around them all. -/
theorem parentModule_append {front names : List (List Char)} (hfront : front ≠ [])
    (hnames : names ≠ []) :
    parentModule (front ++ names) = front ++ names.take (names.length - 1) := by
  have hlength : 1 < (front ++ names).length := by
    have hfrontLength := List.length_pos_of_ne_nil hfront
    have hnamesLength := List.length_pos_of_ne_nil hnames
    rw [List.length_append]
    omega
  rw [parentModule, if_pos hlength, List.dropLast_append_of_ne_nil hnames,
    List.dropLast_eq_take]

/-- A path that climbs out of some modules only does so whatever stands around them. -/
theorem exists_climb_append {fuel : ℕ} {names : List (List Char)} {written : List Char}
    (hclimbs : climbsOf written ≤ names.length) :
    ∃ count rest, ∀ front ≠ [],
      climb fuel (front ++ names) written = (front ++ names.take count, rest) := by
  induction fuel generalizing names written with
  | zero => exact ⟨names.length, written, fun front _ => by rw [climb, List.take_length]⟩
  | succ fuel ih =>
      cases hself : dropFront? "self::".toList written with
      | some tail =>
          obtain rfl := dropFront?_eq_some_iff.mp hself
          obtain ⟨count, rest, hclimb⟩ := ih (Nat.le_trans (climbsOf_self tail).ge hclimbs)
          refine ⟨count, rest, fun front hfront => ?_⟩
          rw [climb, hself]
          exact hclimb front hfront
      | none =>
          cases hsuper : dropFront? "super::".toList written with
          | some tail =>
              obtain rfl := dropFront?_eq_some_iff.mp hsuper
              have htail : climbsOf tail + 1 ≤ names.length :=
                Nat.le_trans (climbsOf_super tail).ge hclimbs
              have hnames : names ≠ [] := by
                rintro rfl
                exact absurd htail (Nat.not_succ_le_zero _)
              obtain ⟨count, rest, hclimb⟩ := @ih (names.take (names.length - 1)) tail (by
                rw [List.length_take_of_le (Nat.sub_le _ _)]
                omega)
              refine ⟨min count (names.length - 1), rest, fun front hfront => ?_⟩
              rw [climb, hself, hsuper]
              refine (congrArg (climb fuel · tail) (parentModule_append hfront hnames)).trans ?_
              rw [hclimb front hfront, List.take_take]
          | none =>
              refine ⟨names.length, written, fun front _ => ?_⟩
              rw [climb, hself, hsuper, List.take_length]

/-! ### Paths written in a source -/

/-- A path written inside so many modules of a source begins in the module where it stands, and
does not climb out of the source. -/
structure StaysInside (depth : ℕ) (written : String) : Prop where
  isRelative : isAbsolute written.toList = false
  climbs_le : climbsOf written.toList ≤ depth

instance (depth : ℕ) (written : String) : Decidable (StaysInside depth written) :=
  decidable_of_iff (isAbsolute written.toList = false ∧ climbsOf written.toList ≤ depth)
    ⟨fun ⟨hrelative, hclimbs⟩ => ⟨hrelative, hclimbs⟩,
      fun hstays => ⟨hstays.isRelative, hstays.climbs_le⟩⟩

theorem childPath_append (mount modulePath name : String) :
    childPath (mount ++ modulePath) name = mount ++ childPath modulePath name := by
  simp only [childPath, String.append_assoc]

theorem foldl_childPath_append (mount modulePath : String) (names : List String) :
    names.foldl childPath (mount ++ modulePath) = mount ++ names.foldl childPath modulePath := by
  induction names generalizing modulePath with
  | nil => rfl
  | cons name names ih => rw [List.foldl_cons, childPath_append, ih, List.foldl_cons]

theorem foldl_childPath_eq (mount : String) (names : List String) :
    names.foldl childPath mount = mount ++ names.foldl childPath "" := by
  rw [← foldl_childPath_append, String.append_empty]

/-- What a path in a source means is the mount and an ending that every mount shares. -/
theorem exists_absolutePath_eq {names : List String} {written : String}
    (hnames : ColonFree (names.map String.toList)) (hstays : StaysInside names.length written) :
    ∃ ending, ∀ around ≠ [], ColonFree (around.map String.toList) →
      absolutePath (names.foldl childPath (joinTexts "::" around)) written =
        joinTexts "::" around ++ ending := by
  have hlength : climbsOf written.toList ≤ (names.map String.toList).length := by
    rw [List.length_map]
    exact hstays.climbs_le
  obtain ⟨count, rest, hclimb⟩ := @exists_climb_append written.length _ _ hlength
  refine ⟨(names.take count).foldl childPath "" ++ String.ofList (':' :: ':' :: rest),
    fun around haround hcolons => ?_⟩
  have haroundChars : around.map String.toList ≠ [] := List.map_eq_nil_iff.not.mpr haround
  have hreached : Text.join [':', ':'] (around.map String.toList ++
      (names.map String.toList).take count) =
      (joinTexts "::" (around ++ names.take count)).toList := by
    rw [toList_joinTexts_colons, List.map_append, List.map_take]
  rw [absolutePath, hstays.isRelative, if_neg Bool.false_ne_true, foldl_childPath haround,
    toList_joinTexts_colons, List.map_append,
    splitOnColons_join (List.append_ne_nil_of_left_ne_nil haroundChars _) (hcolons.append hnames),
    hclimb _ haroundChars]
  dsimp only
  rw [hreached, String.ofList_append, String.ofList_toList, ← foldl_childPath haround,
    foldl_childPath_eq, String.append_assoc]

/-- A path in a source that is mounted somewhere means the mount and what it means in the source
alone. -/
theorem absolutePath_mounted {around names : List String} {written : String} (haround : around ≠ [])
    (hcolons : ColonFree (around.map String.toList)) (hnames : ColonFree (names.map String.toList))
    (hstays : StaysInside names.length written) :
    absolutePath (joinTexts "::" around ++ names.foldl childPath "") written =
      joinTexts "::" around ++ absolutePath (names.foldl childPath "") written := by
  obtain ⟨ending, hending⟩ := exists_absolutePath_eq hnames hstays
  have halone := hending [""] (List.cons_ne_nil _ _) (List.forall_mem_singleton.mpr (by decide))
  have hnothing : joinTexts "::" [""] = "" := rfl
  rw [hnothing, String.empty_append] at halone
  rw [halone, ← foldl_childPath_eq]
  exact hending around haround hcolons

end MarkedRoutes
