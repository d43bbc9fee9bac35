import MarkedRoutes.Proofs.Generated.WritablePath
import MarkedRoutes.Proofs.Resolution.NamedConverters
import MarkedRoutes.Proofs.Source.WrittenNames

/-!
# Paths of called functions

A function is called by a path whose names are kept without the mark of a raw identifier.  In
generated code that mark is due in front of every keyword but the words of the module tree.  Where
the text is no path as it stands, each name is written by itself and gets the mark it is due.  The
grammar of paths takes a bare `try`, though: a path with no other keyword that needs the mark is
written as it stands.
-/

namespace MarkedRoutes

open MarkedRoutes.Source
open MarkedRoutes.Text

/-! ### Keywords of the 2021 edition -/

def strictKeywords : List String :=
  ["as", "async", "await", "break", "const", "continue", "crate", "dyn", "else", "enum", "extern",
    "false", "fn", "for", "if", "impl", "in", "let", "loop", "match", "mod", "move", "mut", "pub",
    "ref", "return", "self", "Self", "static", "struct", "super", "trait", "true", "type",
    "unsafe", "use", "where", "while"]

/-- Keywords that are kept for later use. -/
def reservedKeywords : List String :=
  ["abstract", "become", "box", "do", "final", "macro", "override", "priv", "try", "typeof",
    "unsized", "virtual", "yield"]

/-- A keyword that can only be a name as a raw identifier. -/
def MustBeRaw (name : String) : Prop :=
  (name ∈ strictKeywords ∨ name ∈ reservedKeywords) ∧ isPathWord name = false

instance (name : String) : Decidable (MustBeRaw name) :=
  inferInstanceAs (Decidable (_ ∧ _))

/-- A name as it stands in a legal path. -/
def writtenName (name : String) : String := if MustBeRaw name then "r#" ++ name else name

/-- The tokens of a legal path with these names. -/
def calleeTokens (rooted : Bool) (names : List String) : List Token :=
  pathNameTokens 0 rooted (names.map writtenName)

section

variable {name : String}

/-- The keywords of a path are those of the language, and the underscore. -/
theorem isKeyword_iff :
    isKeyword name = true ↔ (name ∈ strictKeywords ∨ name ∈ reservedKeywords) ∨ name = "_" := by
  have hforth : ∀ word ∈ keywords,
      (word ∈ strictKeywords ∨ word ∈ reservedKeywords) ∨ word = "_" := by decide +kernel
  have hback : ∀ word ∈ strictKeywords ++ reservedKeywords ++ ["_"], word ∈ keywords := by
    decide +kernel
  rw [isKeyword, List.contains_iff_mem]
  refine ⟨hforth name, fun hword => hback name ?_⟩
  rwa [List.mem_append, List.mem_append, List.mem_singleton]

/-- A plain name needs the mark when it is a keyword but no word of the module tree. -/
theorem mustBeRaw_iff (hplain : IsPlainName name) :
    MustBeRaw name ↔ isKeyword name = true ∧ isPathWord name = false := by
  rw [MustBeRaw, isKeyword_iff, or_iff_left hplain.ne_underscore]

theorem mustBeRaw_try : MustBeRaw "try" := by decide +kernel

/-- The grammar of paths takes a plain name as it stands unless the name needs the mark, and
`try` all the same. -/
theorem isSegmentName_iff (hplain : IsPlainName name) :
    isSegmentName name = true ↔ (MustBeRaw name → name = "try") := by
  rw [mustBeRaw_iff hplain, isSegmentName]
  cases isKeyword name <;> cases isPathWord name <;> simp

/-- By itself a name is written with the mark it is due. -/
theorem segmentName_eq (hplain : IsPlainName name) :
    segmentName name = .ok (writtenName name) := by
  have hraw : hasNoRawForm name = isPathWord name := by
    rw [hasNoRawForm, beq_eq_false_iff_ne.mpr hplain.ne_underscore, Bool.or_false]
  rw [segmentName, hplain.isBare, identifierOfText?_name hplain.isBare, hraw, writtenName]
  simp only [mustBeRaw_iff hplain]
  cases isKeyword name <;> cases isPathWord name <;> rfl

theorem writtenName_ne_try : writtenName name ≠ "try" := by
  intro heq
  rw [writtenName] at heq
  split_ifs at heq with hraw
  · have hchars := congrArg String.toList heq
    rw [String.toList_append] at hchars
    exact absurd (List.cons.inj hchars).1 (by decide)
  · exact hraw (heq ▸ mustBeRaw_try)

end

section Paths

variable {rooted : Bool} {names : List String}

theorem segmentNameTokens_names (hplain : ∀ name ∈ names, IsPlainName name) :
    segmentNameTokens (names.map String.toList) =
      .ok (joinedNameTokens 0 (names.map writtenName)) := by
  induction names with
  | nil => rfl
  | cons first names ih =>
      obtain ⟨hfirst, hmore⟩ := List.forall_mem_cons.mp hplain
      have hname := segmentName_eq hfirst
      cases names with
      | nil =>
          rw [List.map_cons, List.map_nil, segmentNameTokens, String.ofList_toList, hname]
          rfl
      | cons second names =>
          have hrest := ih hmore
          rw [List.map_cons] at hrest
          rw [List.map_cons, List.map_cons, segmentNameTokens, String.ofList_toList, hname,
            ok_bind, hrest, ok_bind]
          exact congrArg Except.ok (joinedNameTokens_cons_cons 0 _ _ _).symm

theorem mem_joinedNameTokens_iff {line : ℕ} {name : String} :
    .ident name line ∈ joinedNameTokens line names ↔ name ∈ names := by
  induction names with
  | nil => exact iff_of_false List.not_mem_nil List.not_mem_nil
  | cons first names ih =>
      cases names with
      | nil => simp [joinedNameTokens]
      | cons second names =>
          rw [joinedNameTokens_cons_cons, List.mem_cons, List.mem_cons, List.mem_cons, ih,
            List.mem_cons]
          simp

theorem mem_pathNameTokens_iff {line : ℕ} {name : String} :
    .ident name line ∈ pathNameTokens line rooted names ↔ name ∈ names := by
  rw [pathNameTokens, List.mem_append, mem_joinedNameTokens_iff]
  cases rooted <;> simp [operator]

/-- Where every name can stand as it is, the names are written so; otherwise each name is written
by itself. -/
theorem pathTokens_pathText [SourceParser] (hreads : ReadsNames) (rooted : Bool)
    (hne : names ≠ []) (hplain : ∀ name ∈ names, IsPlainName name) :
    pathTokens (pathText rooted names) =
      .ok (if names.all isSegmentName then pathNameTokens 0 rooted names
        else calleeTokens rooted names) := by
  have hbare : ∀ name ∈ names, isBareName name = true := fun name hmem => (hplain name hmem).isBare
  have hcolons : ColonFree (names.map String.toList) :=
    List.forall_mem_map.mpr fun name hmem => colon_notMem_of_isBareName (hbare name hmem)
  have hpieces : names.map String.toList ≠ [] := List.map_eq_nil_iff.not.mpr hne
  rw [pathTokens, pathOfText?_pathText hreads rooted hne hbare]
  cases names.all isSegmentName with
  | true =>
      rw [if_pos rfl, if_pos rfl]
      dsimp only
      rw [Path.tokens, segmentTokens_names]
      rfl
  | false =>
      rw [if_neg Bool.false_ne_true, if_neg Bool.false_ne_true]
      dsimp only
      rw [pathText, String.toList_ofList, calleeTokens, pathNameTokens]
      cases rooted with
      | true =>
          have hdrop : dropFront? [':', ':']
              ((if true then [':', ':'] else []) ++ join [':', ':'] (names.map String.toList)) =
                some (join [':', ':'] (names.map String.toList)) := rfl
          rw [hdrop]
          dsimp only
          rw [splitOnColons_join hpieces hcolons, segmentNameTokens_names hplain]
          rfl
      | false =>
          have hhead : (names.map String.toList).head? ≠ some [] := by
            obtain ⟨first, names, rfl⟩ := List.exists_cons_of_ne_nil hne
            intro hempty
            have hfirst := hbare first List.mem_cons_self
            rw [isBareName, Option.some.inj hempty] at hfirst
            cases hfirst
          rw [if_neg Bool.false_ne_true, if_neg Bool.false_ne_true, List.nil_append,
            List.nil_append]
          have hdrop := dropFront?_join_eq_none List.not_mem_nil hpieces hcolons hhead
          rw [List.nil_append] at hdrop
          rw [hdrop]
          dsimp only
          rw [splitOnColons_join hpieces hcolons, segmentNameTokens_names hplain]

/-- A path is written with the marks its names are due exactly where each `try` comes with some
other keyword that needs the mark; otherwise it is written as it stands. -/
theorem pathTokens_eq_calleeTokens_iff [SourceParser] (hreads : ReadsNames) (rooted : Bool)
    (hne : names ≠ []) (hplain : ∀ name ∈ names, IsPlainName name) :
    (pathTokens (pathText rooted names) = .ok (calleeTokens rooted names) ↔
      ("try" ∈ names → ∃ name ∈ names, MustBeRaw name ∧ name ≠ "try")) ∧
    (("try" ∈ names ∧ ∀ name ∈ names, MustBeRaw name → name = "try") →
      pathTokens (pathText rooted names) = .ok (pathNameTokens 0 rooted names)) := by
  have hall : names.all isSegmentName = true ↔ ∀ name ∈ names, MustBeRaw name → name = "try" := by
    rw [List.all_eq_true]
    exact forall₂_congr fun name hmem => isSegmentName_iff (hplain name hmem)
  rw [pathTokens_pathText hreads rooted hne hplain]
  refine ⟨?_, fun ⟨_, hothers⟩ => by rw [if_pos (hall.mpr hothers)]⟩
  by_cases hplainly : ∀ name ∈ names, MustBeRaw name → name = "try"
  · rw [if_pos (hall.mpr hplainly)]
    constructor
    · intro htokens htry
      have hmem : .ident "try" 0 ∈ pathNameTokens 0 rooted names := mem_pathNameTokens_iff.mpr htry
      rw [Except.ok.inj htokens, calleeTokens, mem_pathNameTokens_iff] at hmem
      obtain ⟨name, -, hname⟩ := List.mem_map.mp hmem
      exact absurd hname writtenName_ne_try
    · intro hmark
      have hnames : names.map writtenName = names := by
        refine (List.map_congr_left fun name hmem => if_neg fun hraw => ?_).trans (List.map_id' _)
        obtain rfl := hplainly name hmem hraw
        obtain ⟨other, hother, hraw, hne⟩ := hmark hmem
        exact hne (hplainly other hother hraw)
      rw [calleeTokens, hnames]
  · rw [if_neg (hall.not.mpr hplainly)]
    refine iff_of_true rfl fun _ => ?_
    push Not at hplainly
    exact hplainly

end Paths

section Standard

attribute [local instance] SourceParser.standard

/-- Beside `type` a `try` gets its mark, and alone in its path it does not. -/
theorem pathTokens_eq_calleeTokens_iff_books :
    pathTokens (pathText true ["books", "try", "type"]) =
        .ok (pathNameTokens 0 true ["books", "r#try", "r#type"]) ∧
      pathTokens (pathText false ["crate", "try"]) =
        .ok (pathNameTokens 0 false ["crate", "try"]) := by
  have hmarked : ["books", "try", "type"].map writtenName = ["books", "r#try", "r#type"] := by
    decide +kernel
  rw [← hmarked]
  exact ⟨(pathTokens_eq_calleeTokens_iff readsNames_standard true
      (by decide) (by decide +kernel)).1.mpr
      (fun _ => ⟨"type", by decide, by decide +kernel, by decide⟩),
    (pathTokens_eq_calleeTokens_iff readsNames_standard false (by decide) (by decide +kernel)).2
      ⟨by decide, by decide +kernel⟩⟩

/-- The last name of `crate::try` is due a mark that is not written. -/
theorem pathTokens_crate_try_ne :
    MustBeRaw "try" ∧
      calleeTokens false ["crate", "try"] = pathNameTokens 0 false ["crate", "r#try"] ∧
      pathTokens "crate::try" ≠ .ok (calleeTokens false ["crate", "try"]) := by
  have hmarked : ["crate", "try"].map writtenName = ["crate", "r#try"] := by decide +kernel
  have htext : "crate::try" = pathText false ["crate", "try"] := by decide +kernel
  refine ⟨mustBeRaw_try, congrArg (pathNameTokens 0 false) hmarked, fun htokens => ?_⟩
  rw [htext, pathTokens_pathText readsNames_standard false (by decide) (by decide +kernel),
    if_pos (by decide +kernel)] at htokens
  have hmem : .ident "try" 0 ∈ pathNameTokens 0 false ["crate", "try"] :=
    mem_pathNameTokens_iff.mpr (by decide)
  rw [Except.ok.inj htokens, calleeTokens, hmarked, mem_pathNameTokens_iff] at hmem
  exact absurd hmem (by decide)

end Standard

end MarkedRoutes
