import MarkedRoutes.Resolution.ModulePath
import MarkedRoutes.Source.Keyword
import MarkedRoutes.Text.Blank
import Mathlib.Data.List.Basic

/-!
# Paths as texts

A path is compared as a text: its names with `::` between them.  Names without colons can be
read off that text again.  So a path that is read in a module has the names that its first
words lead to, and behind them its other names, as they are written.
-/

namespace MarkedRoutes

open MarkedRoutes.Source (isPathWord)
open MarkedRoutes.Text

namespace Text

/-! ### Joining and splitting at `::` -/

/-- Pieces of a path: none of them holds a colon. -/
def ColonFree (pieces : List (List Char)) : Prop := ∀ piece ∈ pieces, ':' ∉ piece

variable {piece rest word : List Char} {pieces others words : List (List Char)}

theorem ColonFree.append (hpieces : ColonFree pieces) (hothers : ColonFree others) :
    ColonFree (pieces ++ others) :=
  fun piece hmem => (List.mem_append.mp hmem).elim (hpieces piece) (hothers piece)

theorem join_cons (separator : List Char) (piece : List Char) (hpieces : pieces ≠ []) :
    join separator (piece :: pieces) = piece ++ (separator ++ join separator pieces) := by
  cases pieces with
  | nil => exact absurd rfl hpieces
  | cons second rest => rfl

theorem join_append (separator : List Char) (hpieces : pieces ≠ []) (hothers : others ≠ []) :
    join separator (pieces ++ others) =
      join separator pieces ++ (separator ++ join separator others) := by
  induction pieces with
  | nil => exact absurd rfl hpieces
  | cons first pieces ih =>
      cases pieces with
      | nil => exact join_cons separator first hothers
      | cons second rest =>
          have hmore : second :: rest ++ others ≠ [] :=
            List.append_ne_nil_of_left_ne_nil (List.cons_ne_nil second rest) others
          rw [List.cons_append, join_cons separator first hmore, ih (List.cons_ne_nil _ _),
            join_cons separator first (List.cons_ne_nil _ _)]
          simp only [List.append_assoc]

/-- A text of two or more pieces holds the separators between them. -/
theorem length_le_length_join (pieces : List (List Char)) :
    pieces.length ≤ (join [':', ':'] pieces).length + 1 := by
  induction pieces with
  | nil => exact Nat.zero_le _
  | cons first pieces ih =>
      cases pieces with
      | nil => exact Nat.le_add_left _ _
      | cons second rest =>
          rw [join_cons _ first (List.cons_ne_nil _ _)]
          simp only [List.length_append, List.length_cons] at ih ⊢
          omega

theorem splitOnColons_of_notMem (hpiece : ':' ∉ piece) : splitOnColons piece = [piece] := by
  induction piece with
  | nil => rfl
  | cons c piece ih =>
      rw [List.mem_cons, not_or] at hpiece
      rw [splitOnColons, ih hpiece.2, consHead]
      rintro more rfl
      exact absurd rfl hpiece.1

theorem splitOnColons_append (hpiece : ':' ∉ piece) :
    splitOnColons (piece ++ ':' :: ':' :: rest) = piece :: splitOnColons rest := by
  induction piece with
  | nil => rw [List.nil_append, splitOnColons]
  | cons c piece ih =>
      rw [List.mem_cons, not_or] at hpiece
      rw [List.cons_append, splitOnColons, ih hpiece.2, consHead]
      rintro more rfl
      exact absurd rfl hpiece.1

theorem splitOnColons_join (hne : pieces ≠ []) (hpieces : ColonFree pieces) :
    splitOnColons (join [':', ':'] pieces) = pieces := by
  induction pieces with
  | nil => exact absurd rfl hne
  | cons first pieces ih =>
      obtain ⟨hfirst, hrest⟩ := List.forall_mem_cons.mp hpieces
      cases pieces with
      | nil => exact splitOnColons_of_notMem hfirst
      | cons second rest =>
          rw [join_cons _ first (List.cons_ne_nil _ _)]
          exact (splitOnColons_append hfirst).trans
            (congrArg (first :: ·) (ih (List.cons_ne_nil _ _) hrest))

/-- A text begins with a word and `::` only when the word is its first piece. -/
theorem dropFront?_join_eq_none (hword : ':' ∉ word) (hne : pieces ≠ [])
    (hpieces : ColonFree pieces) (hhead : pieces.head? ≠ some word) :
    dropFront? (word ++ [':', ':']) (join [':', ':'] pieces) = none := by
  refine Option.eq_none_iff_forall_ne_some.mpr fun rest hdrop => hhead ?_
  have htext := dropFront?_eq_some_iff.mp hdrop
  rw [List.append_assoc] at htext
  rw [← splitOnColons_join hne hpieces, htext]
  exact congrArg List.head? (splitOnColons_append hword)

theorem dropFront?_join_cons (word : List Char) (hne : pieces ≠ []) :
    dropFront? (word ++ [':', ':']) (join [':', ':'] (word :: pieces)) =
      some (join [':', ':'] pieces) := by
  rw [dropFront?_eq_some_iff, join_cons _ word hne, List.append_assoc]

end Text

/-! ### Climbing -/

variable {segments names : List (List Char)}

theorem parentModule_eq_take (hlength : 1 < segments.length) :
    parentModule segments = segments.take (segments.length - 1) := by
  rw [parentModule, if_pos hlength, List.dropLast_eq_take]

/-- Names that no word leads are read in the module itself. -/
theorem climb_join (fuel : ℕ) (hne : names ≠ []) (hnames : ColonFree names)
    (hself : names.head? ≠ some "self".toList) (hsuper : names.head? ≠ some "super".toList) :
    climb fuel segments (join [':', ':'] names) = (segments, join [':', ':'] names) := by
  have hstays : dropFront? "self::".toList (join [':', ':'] names) = none :=
    dropFront?_join_eq_none (by decide) hne hnames hself
  have hclimbs : dropFront? "super::".toList (join [':', ':'] names) = none :=
    dropFront?_join_eq_none (by decide) hne hnames hsuper
  cases fuel with
  | zero => rfl
  | succ fuel => rw [climb, hstays, hclimbs]

theorem climb_self (fuel : ℕ) (hne : names ≠ []) :
    climb (fuel + 1) segments (join [':', ':'] ("self".toList :: names)) =
      climb fuel segments (join [':', ':'] names) := by
  have hstays : dropFront? "self::".toList (join [':', ':'] ("self".toList :: names)) =
      some (join [':', ':'] names) := dropFront?_join_cons "self".toList hne
  rw [climb, hstays]

theorem climb_super (fuel : ℕ) (hne : names ≠ []) :
    climb (fuel + 1) segments (join [':', ':'] ("super".toList :: names)) =
      climb fuel (parentModule segments) (join [':', ':'] names) := by
  have hstays : dropFront? "self::".toList (join [':', ':'] ("super".toList :: names)) = none := by
    rw [join_cons _ _ hne]
    rfl
  have hclimbs : dropFront? "super::".toList (join [':', ':'] ("super".toList :: names)) =
      some (join [':', ':'] names) := dropFront?_join_cons "super".toList hne
  rw [climb, hstays, hclimbs]

/-- Every leading `super` leaves one more module, as long as there is one around it. -/
theorem climb_supers {count fuel : ℕ} (hcount : count < segments.length) (hfuel : count ≤ fuel)
    (hne : names ≠ []) (hnames : ColonFree names) (hself : names.head? ≠ some "self".toList)
    (hsuper : names.head? ≠ some "super".toList) :
    climb fuel segments (join [':', ':'] (List.replicate count "super".toList ++ names)) =
      (segments.take (segments.length - count), join [':', ':'] names) := by
  induction count generalizing fuel segments with
  | zero =>
      rw [List.replicate_zero, List.nil_append, climb_join fuel hne hnames hself hsuper,
        Nat.sub_zero, List.take_length]
  | succ count ih =>
      have hmore : List.replicate count "super".toList ++ names ≠ [] :=
        List.append_ne_nil_of_right_ne_nil _ hne
      have hparent := parentModule_eq_take (Nat.lt_of_le_of_lt (Nat.le_add_left 1 count) hcount)
      have hlength : (parentModule segments).length = segments.length - 1 := by
        rw [hparent, List.length_take_of_le (Nat.sub_le _ _)]
      cases fuel with
      | zero => omega
      | succ fuel =>
          rw [List.replicate_succ, List.cons_append, climb_super fuel hmore,
            ih (by omega) (Nat.le_of_succ_le_succ hfuel), hlength, hparent, List.take_take]
          congr 2
          omega

/-! ### Absolute paths -/

/-- A name that a path can lead to: no path word, and without colons and blanks. -/
structure IsPathName (name : String) : Prop where
  ne_empty : name ≠ ""
  colon_notMem : ':' ∉ name.toList
  blank_notMem : ∀ c ∈ name.toList, isBlank c = false
  isNoWord : isPathWord name = false

instance (name : String) : Decidable (IsPathName name) :=
  decidable_of_iff (name ≠ "" ∧ ':' ∉ name.toList ∧ (name.toList.all fun c => !isBlank c) = true ∧
      isPathWord name = false)
    ⟨fun ⟨hempty, hcolon, hblank, hword⟩ => ⟨hempty, hcolon, by simpa using hblank, hword⟩,
      fun hname => ⟨hname.ne_empty, hname.colon_notMem, by simpa using hname.blank_notMem,
        hname.isNoWord⟩⟩

/-- How a path begins: at the outermost module, or in a module, perhaps with `self`, and then
with as many `super` as it goes up. -/
inductive PathLead where
  | crate
  | inside (stays : Bool) (climbs : ℕ)

namespace PathLead

def words : PathLead → List String
  | crate => ["crate"]
  | inside stays climbs => (if stays then ["self"] else []) ++ List.replicate climbs "super"

/-- The module that these words lead to from a module. -/
def reached : PathLead → List String → List String
  | crate, _ => ["crate"]
  | inside _ climbs, around => around.take (around.length - climbs)

/-- The words do not lead out of the outermost module. -/
def FitsIn : PathLead → List String → Prop
  | crate, _ => True
  | inside _ climbs, around => climbs < around.length

theorem words_subset (lead : PathLead) : lead.words ⊆ ["crate", "self", "super"] := by
  cases lead with
  | crate => decide
  | inside stays climbs =>
      refine List.append_subset.mpr ⟨?_, fun word hmem => ?_⟩
      · cases stays <;> decide
      · rw [List.eq_of_mem_replicate hmem]
        decide

end PathLead

section Absolute

variable {around names : List String}

theorem toList_joinTexts_colons (names : List String) :
    (joinTexts "::" names).toList = join [':', ':'] (names.map String.toList) := by
  rw [joinTexts, String.toList_ofList]
  rfl

theorem joinTexts_append (hnames : names ≠ []) (haround : around ≠ []) :
    joinTexts "::" (around ++ names) =
      String.ofList (join [':', ':'] (around.map String.toList) ++
        ':' :: ':' :: join [':', ':'] (names.map String.toList)) := by
  rw [joinTexts, List.map_append]
  exact congrArg String.ofList (join_append [':', ':'] (List.map_eq_nil_iff.not.mpr haround)
    (List.map_eq_nil_iff.not.mpr hnames))

/-- Names without colons can be read off their path. -/
theorem joinTexts_inj (haround : around ≠ []) (hnames : names ≠ [])
    (haroundColons : ColonFree (around.map String.toList))
    (hnamesColons : ColonFree (names.map String.toList)) :
    joinTexts "::" around = joinTexts "::" names ↔ around = names := by
  refine ⟨fun hequal => ?_, congrArg _⟩
  have hpieces := congrArg (fun text => splitOnColons text.toList) hequal
  simp only [toList_joinTexts_colons] at hpieces
  rw [splitOnColons_join (List.map_eq_nil_iff.not.mpr haround) haroundColons,
    splitOnColons_join (List.map_eq_nil_iff.not.mpr hnames) hnamesColons] at hpieces
  exact List.map_injective_iff.mpr (fun _ _ => String.toList_injective) hpieces

theorem head?_ne_of_isPathName (hnames : ∀ name ∈ names, IsPathName name) {word : String}
    (hword : word = "" ∨ isPathWord word = true) :
    (names.map String.toList).head? ≠ some word.toList := by
  intro hhead
  rw [List.head?_map, Option.map_eq_some_iff] at hhead
  obtain ⟨name, hname, hsame⟩ := hhead
  have hplain := hnames name (List.mem_of_mem_head? hname)
  rw [String.toList_inj] at hsame
  subst hsame
  rcases hword with hempty | hisWord
  · exact hplain.ne_empty hempty
  · rw [hplain.isNoWord] at hisWord
    cases hisWord

theorem colonFree_of_isPathName (hnames : ∀ name ∈ names, IsPathName name) :
    ColonFree (names.map String.toList) :=
  List.forall_mem_map.mpr fun name hmem => (hnames name hmem).colon_notMem

/-- A path that begins in a module begins with no other word than `self` and `super`. -/
theorem head?_inside_ne {stays : Bool} {climbs : ℕ} (hnames : ∀ name ∈ names, IsPathName name)
    {word : String} (hword : word = "" ∨ word = "crate") :
    (((PathLead.inside stays climbs).words ++ names).map String.toList).head? ≠
      some word.toList := by
  have hwords : word ≠ "self" ∧ word ≠ "super" := by
    rcases hword with rfl | rfl <;> decide
  rw [List.head?_map]
  intro hhead
  obtain ⟨first, hfirst, hsame⟩ := Option.map_eq_some_iff.mp hhead
  rw [String.toList_inj] at hsame
  subst hsame
  cases stays with
  | true => exact hwords.1 (Option.some.inj hfirst).symm
  | false =>
      cases climbs with
      | succ climbs => exact hwords.2 (Option.some.inj hfirst).symm
      | zero =>
          rw [← List.head?_map] at hhead
          refine head?_ne_of_isPathName hnames (hword.imp_right ?_) hhead
          rintro rfl
          rfl

theorem colonFree_words_append (lead : PathLead) (hnames : ∀ name ∈ names, IsPathName name) :
    ColonFree ((lead.words ++ names).map String.toList) := by
  have hwords : ∀ word ∈ ["crate", "self", "super"], ':' ∉ word.toList := by decide
  rw [List.map_append]
  exact ColonFree.append
    (List.forall_mem_map.mpr fun word hmem => hwords word (lead.words_subset hmem))
    (colonFree_of_isPathName hnames)

theorem PathLead.colonFree_reached (lead : PathLead)
    (haround : ColonFree (around.map String.toList)) :
    ColonFree ((lead.reached around).map String.toList) := by
  cases lead with
  | crate => exact List.forall_mem_singleton.mpr (by decide)
  | inside stays climbs =>
      rw [PathLead.reached, List.map_take]
      exact fun piece hmem => haround piece (List.mem_of_mem_take hmem)

theorem isAbsolute_inside {stays : Bool} {climbs : ℕ} (hne : names ≠ [])
    (hnames : ∀ name ∈ names, IsPathName name) :
    isAbsolute (join [':', ':']
      (((PathLead.inside stays climbs).words ++ names).map String.toList)) = false := by
  have hpieces : ((PathLead.inside stays climbs).words ++ names).map String.toList ≠ [] :=
    List.map_eq_nil_iff.not.mpr (List.append_ne_nil_of_right_ne_nil _ hne)
  have hcrate : dropFront? "crate::".toList _ = none :=
    dropFront?_join_eq_none (by decide) hpieces (colonFree_words_append _ hnames)
      (head?_inside_ne hnames (Or.inr rfl))
  have hroot : dropFront? "::".toList _ = none :=
    dropFront?_join_eq_none (by decide) hpieces (colonFree_words_append _ hnames)
      (head?_inside_ne hnames (Or.inl rfl))
  rw [isAbsolute, hcrate, hroot]
  rfl

/-- The first words of a path are applied to the module where it is read. -/
theorem climb_inside {stays : Bool} {climbs fuel : ℕ} {segments : List (List Char)}
    (hclimbs : climbs < segments.length)
    (hfuel : (PathLead.inside stays climbs).words.length ≤ fuel) (hne : names ≠ [])
    (hnames : ∀ name ∈ names, IsPathName name) :
    climb fuel segments (join [':', ':']
        (((PathLead.inside stays climbs).words ++ names).map String.toList)) =
      (segments.take (segments.length - climbs), join [':', ':'] (names.map String.toList)) := by
  have hpieces : names.map String.toList ≠ [] := List.map_eq_nil_iff.not.mpr hne
  have hsupers : ∀ {fuel : ℕ}, climbs ≤ fuel →
      climb fuel segments (join [':', ':']
          (List.replicate climbs "super".toList ++ names.map String.toList)) =
        (segments.take (segments.length - climbs), join [':', ':'] (names.map String.toList)) :=
    fun hfuel => climb_supers hclimbs hfuel hpieces (colonFree_of_isPathName hnames)
      (head?_ne_of_isPathName hnames (Or.inr rfl)) (head?_ne_of_isPathName hnames (Or.inr rfl))
  rw [PathLead.words, List.length_append, List.length_replicate] at hfuel
  rw [PathLead.words, List.map_append, List.map_append, List.map_replicate]
  cases stays with
  | false => exact hsupers (Nat.le_trans (Nat.le_add_left _ _) hfuel)
  | true =>
      have hmore : List.replicate climbs "super".toList ++ names.map String.toList ≠ [] :=
        List.append_ne_nil_of_right_ne_nil _ hpieces
      obtain ⟨fuel, rfl⟩ : ∃ less, fuel = less + 1 :=
        Nat.exists_eq_add_of_le' (Nat.le_trans (Nat.le_add_right 1 climbs) hfuel)
      refine (climb_self fuel hmore).trans (hsupers (Nat.le_of_succ_le_succ ?_))
      rwa [Nat.add_comm] at hfuel

/-- Read in a module, a path has the names of the module that its first words lead to, and its
other names behind them. -/
theorem absolutePath_joinTexts (lead : PathLead) (haround : ColonFree (around.map String.toList))
    (hfits : lead.FitsIn around) (hne : names ≠ []) (hnames : ∀ name ∈ names, IsPathName name) :
    absolutePath (joinTexts "::" around) (joinTexts "::" (lead.words ++ names)) =
      joinTexts "::" (lead.reached around ++ names) := by
  rw [absolutePath, toList_joinTexts_colons]
  cases lead with
  | crate =>
      have hcrate : dropFront? "crate::".toList
          (join [':', ':'] (("crate" :: names).map String.toList)) =
            some (join [':', ':'] (names.map String.toList)) :=
        dropFront?_join_cons "crate".toList (List.map_eq_nil_iff.not.mpr hne)
      rw [if_pos]
      · rfl
      · rw [isAbsolute, PathLead.words, List.singleton_append, hcrate]
        rfl
  | inside stays climbs =>
      have hsome : around.map String.toList ≠ [] := by
        rw [ne_eq, List.map_eq_nil_iff]
        rintro rfl
        exact absurd hfits (Nat.not_lt_zero _)
      have hreached : (PathLead.inside stays climbs).reached around ≠ [] := by
        rw [PathLead.reached, ne_eq, ← List.length_eq_zero_iff,
          List.length_take_of_le (Nat.sub_le _ _)]
        exact Nat.sub_ne_zero_of_lt hfits
      have hfuel : (PathLead.inside stays climbs).words.length ≤
          (joinTexts "::" ((PathLead.inside stays climbs).words ++ names)).length := by
        have hlength := length_le_length_join
          (((PathLead.inside stays climbs).words ++ names).map String.toList)
        rw [← toList_joinTexts_colons, String.length_toList, List.length_map,
          List.length_append] at hlength
        have hpositive := List.length_pos_of_ne_nil hne
        omega
      have hfit : climbs < (around.map String.toList).length := by
        rw [List.length_map]
        exact hfits
      rw [isAbsolute_inside hne hnames, if_neg Bool.false_ne_true, toList_joinTexts_colons,
        splitOnColons_join hsome haround, climb_inside hfit hfuel hne hnames,
        joinTexts_append hne hreached, PathLead.reached, List.map_take, List.length_map]

/-- A name alone is that of a member of the module where it is read. -/
theorem absolutePath_name (hne : around ≠ []) (haround : ColonFree (around.map String.toList))
    {name : String} (hname : IsPathName name) :
    absolutePath (joinTexts "::" around) name = joinTexts "::" (around ++ [name]) := by
  have hmember := absolutePath_joinTexts (.inside false 0) haround
    (List.length_pos_of_ne_nil hne) (List.cons_ne_nil name [])
    (List.forall_mem_singleton.mpr hname)
  have hword : joinTexts "::" ((PathLead.inside false 0).words ++ [name]) = name :=
    String.ofList_toList
  rwa [hword, PathLead.reached, Nat.sub_zero, List.take_length] at hmember

end Absolute

end MarkedRoutes
