import MarkedRoutes.Proofs.Source.SegmentCuts
import MarkedRoutes.Proofs.Source.TypeTexts
import MarkedRoutes.Resolution.TypeText

/-!
# When two types are the same

Types are the same when their canonical texts are equal, or when one text stands at the end of the
other behind a `::`.  For two paths this says that the segments of one are the last of the other.
But the text of a reference, a pointer, a trait object or a function may also end in that of a path,
and so do their tokens: the theorem says for any two types which tokens must stand at the end.
-/

namespace MarkedRoutes

namespace Source

/-- The tokens of a type end, behind a `::` outside of groups, in tokens with the canonical text of
another type. -/
def TypeExpr.EndsIn (long short : TypeExpr) : Prop :=
  ∃ outer first second inner, outer ≠ [] ∧
    long.tokens = outer ++ .punct ':' first :: .punct ':' second :: inner ∧
    canonicalText inner = short.canonical

/-- The last segments of a path, but not all, are those of another that does not begin with `::`. -/
def Path.EndsIn (long short : Path) : Prop :=
  short.rooted = false ∧ ∃ outer, outer ≠ [] ∧
    long.segments.map Segment.canonical = outer ++ short.segments.map Segment.canonical

end Source

open Source

theorem dropBack?_eq_some_iff {suffix text lead : List Char} :
    Text.dropBack? suffix text = some lead ↔ text = lead ++ suffix := by
  rw [Text.dropBack?, Option.map_eq_some_iff]
  constructor
  · rintro ⟨rest, hrest, rfl⟩
    rw [Text.dropFront?_eq_some_iff] at hrest
    rw [← List.reverse_reverse text, hrest, List.reverse_append, List.reverse_reverse]
  · rintro rfl
    exact ⟨lead.reverse, Text.dropFront?_eq_some_iff.mpr List.reverse_append,
      List.reverse_reverse lead⟩

theorem isPathSuffix_iff {short long : List Char} :
    isPathSuffix short long = true ↔ ∃ lead, lead ≠ [] ∧ long = lead ++ ':' :: ':' :: short := by
  have hcolons (lead : List Char) : lead ++ ':' :: ':' :: short = lead ++ [':', ':'] ++ short := by
    rw [List.append_assoc]
    rfl
  rw [isPathSuffix]
  constructor
  · intro hsuffix
    split at hsuffix
    · cases hsuffix
    · next behind hbehind =>
      split at hsuffix
      · cases hsuffix
      · next lead hlead =>
        rw [dropBack?_eq_some_iff] at hbehind hlead
        refine ⟨lead, by simpa using hsuffix, ?_⟩
        rw [hcolons, hbehind, hlead]
  · rintro ⟨lead, hne, hlong⟩
    rw [hcolons] at hlong
    rw [dropBack?_eq_some_iff.mpr hlong]
    dsimp only
    rw [dropBack?_eq_some_iff.mpr rfl]
    simpa using hne

/-! ### Tokens and segments -/

theorem canonical_toList (type : TypeExpr) : type.canonical.toList = canonicalChars type.tokens :=
  String.toList_ofList

theorem canonicalChars_eq_of_canonicalText {left right : List Token}
    (heq : canonicalText left = canonicalText right) :
    canonicalChars left = canonicalChars right := by
  rwa [canonicalText_eq, canonicalText_eq, String.ofList_inj] at heq

theorem shown_colons (outer inner : List Token) (first second : Bool) :
    shown (outer ++ .punct ':' first :: .punct ':' second :: inner) =
      shown outer ++ ':' :: ':' :: shown inner := by
  rw [← visible_canonicalChars, canonicalChars_colons, visible_append,
    visible_cons_of_not (by decide), visible_cons_of_not (by decide), visible_canonicalChars,
    visible_canonicalChars]

/-- A canonical text stands at the end of another, behind a `::`, when the tokens do. -/
theorem isPathSuffix_canonical_iff {long short : TypeExpr} (hlong : long.IsBalanced)
    (hshort : short.IsBalanced) :
    isPathSuffix short.canonical.toList long.canonical.toList = true ↔ long.EndsIn short := by
  rw [isPathSuffix_iff, canonical_toList, canonical_toList]
  constructor
  · rintro ⟨lead, hne, heq⟩
    have hshown : shown long.tokens = visible lead ++ ':' :: ':' :: shown short.tokens := by
      have hvisible := congrArg visible heq
      rwa [visible_canonicalChars, visible_append, visible_cons_of_not (by decide),
        visible_cons_of_not (by decide), visible_canonicalChars] at hvisible
    have houtside := hlong.tokens.isOutside_of_cut hshort.tokens hshown
    obtain ⟨outer, first, second, inner, htokens, houter, -⟩ :=
      hlong.tokens.plain.isCut rfl hshown houtside.1
    rw [htokens, canonicalChars_colons] at heq
    obtain ⟨hlead, htext⟩ := append_colon_inj ((visible_canonicalChars outer).trans houter) heq
    refine ⟨outer, first, second, inner, ?_, htokens, ?_⟩
    · rintro rfl
      exact hne hlead.symm
    · rw [canonicalText_eq, List.tail_eq_of_cons_eq htext]
      rfl
  · rintro ⟨outer, first, second, inner, hne, htokens, htext⟩
    have hplain := hlong.tokens.plain
    rw [htokens, plain_append_iff] at hplain
    refine ⟨canonicalChars outer, fun hnil => hplain.1.shown_ne_nil hne ?_, ?_⟩
    · rw [← visible_canonicalChars, hnil]
      rfl
    · rw [htokens, canonicalChars_colons, canonicalChars_eq_of_canonicalText htext]

/-- Where the tokens of a path end in those of another, so do its segments. -/
theorem Path.endsIn_of_endsIn_tokens {long short : Path} (hlong : long.IsBalanced)
    (hshort : short.IsBalanced) (hends : (TypeExpr.path long).EndsIn (.path short)) :
    long.EndsIn short := by
  obtain ⟨outer, first, second, inner, hne, htokens, htext⟩ := hends
  have hinner : canonicalChars inner = canonicalChars short.tokens :=
    canonicalChars_eq_of_canonicalText htext
  have hshown : shown long.tokens = shown outer ++ ':' :: ':' :: shown short.tokens := by
    rw [← visible_canonicalChars short.tokens, ← hinner, visible_canonicalChars, ← shown_colons]
    exact congrArg shown htokens
  have hplain := hlong.tokens.plain
  change long.tokens = _ at htokens
  rw [htokens, plain_append_iff] at hplain
  have houtside := hlong.tokens.isOutside_of_cut hshort.tokens hshown
  obtain ⟨before, behind, hparts, hbefore, hbehind, hlead, hlast⟩ :=
    hlong.exists_segments_of_cut hshown (hplain.1.shown_ne_nil hne) houtside
      hshort.head_shown_ne_angle
  obtain ⟨rooted, segments⟩ := long
  obtain ⟨shortRooted, shortSegments⟩ := short
  dsimp only [Path.segments, Path.rooted] at hparts hlead ⊢
  subst hparts
  have hbalanced : ∀ segment ∈ behind, segment.IsBalanced := fun segment hmem =>
    hlong.segments segment (List.mem_append_right before hmem)
  -- What stands behind the `::` begins with a name, so the shorter path is not rooted.
  cases shortRooted with
  | true =>
      have hname : (shown (segmentTokens behind)).head? ≠ some ':' :=
        head_shown_ne hbalanced hbehind (by simp [typeMarks])
      rw [hlast, Path.shown_tokens] at hname
      exact absurd rfl hname
  | false =>
      rw [Path.tokens_append rooted hbefore hbehind] at htokens
      have heq := congrArg canonicalChars htokens
      rw [canonicalChars_colons, canonicalChars_colons] at heq
      obtain ⟨-, hcanonical⟩ := append_colon_inj
        (by rw [visible_canonicalChars, visible_canonicalChars, hlead]) heq
      have hsame := map_canonical_eq hbalanced hshort.segments hbehind hshort.segments_ne_nil
        ((List.tail_eq_of_cons_eq hcanonical).trans hinner)
      refine ⟨rfl, before.map Segment.canonical, by simpa using hbefore, ?_⟩
      exact (List.map_append).trans (congrArg (before.map Segment.canonical ++ ·) hsame)

/-- Where the segments of a path end in those of another, so do its tokens. -/
theorem Path.EndsIn.tokens {long short : Path} (hshort : short.IsBalanced)
    (hends : long.EndsIn short) : (TypeExpr.path long).EndsIn (.path short) := by
  obtain ⟨hrooted, outer, hne, hsegments⟩ := hends
  obtain ⟨rooted, segments⟩ := long
  obtain ⟨shortRooted, shortSegments⟩ := short
  dsimp only [Path.segments, Path.rooted] at hrooted hsegments
  subst hrooted
  obtain ⟨before, behind, rfl, rfl, hbehind⟩ := List.map_eq_append_iff.mp hsegments
  have hbefore : before ≠ [] := by simpa using hne
  have hne' : behind ≠ [] := by
    rintro rfl
    exact hshort.segments_ne_nil (List.map_eq_nil_iff.mp hbehind.symm)
  refine ⟨(Source.Path.mk rooted before).tokens, true, false, segmentTokens behind,
    Path.tokens_ne_nil rooted hbefore, Path.tokens_append rooted hbefore hne', ?_⟩
  change canonicalText (segmentTokens behind) = canonicalText (segmentTokens shortSegments)
  rw [canonicalText_eq, canonicalText_eq, canonicalChars_segmentTokens,
    canonicalChars_segmentTokens, hbehind]

/-- The tokens of a path end in those of another exactly when its segments do. -/
theorem endsIn_path_iff {long short : Path} (hlong : long.IsBalanced) (hshort : short.IsBalanced) :
    (TypeExpr.path long).EndsIn (.path short) ↔ long.EndsIn short :=
  ⟨Path.endsIn_of_endsIn_tokens hlong hshort, Path.EndsIn.tokens hshort⟩

/-- Types that are read from texts are taken for the same exactly when their canonical texts are
equal or the tokens of one end in those of the other behind a `::`; and when both are paths,
exactly when their texts are equal or the segments of one are the last of the other. -/
theorem sameType_iff {leftText rightText : String} {left right : TypeExpr}
    (hleft : IsTypeText leftText left) (hright : IsTypeText rightText right) :
    (sameType left.canonical right.canonical = true ↔
      left.canonical = right.canonical ∨ left.EndsIn right ∨ right.EndsIn left) ∧
    ∀ leftPath rightPath, left = .path leftPath → right = .path rightPath →
      (sameType left.canonical right.canonical = true ↔
        left.canonical = right.canonical ∨ leftPath.EndsIn rightPath ∨
          rightPath.EndsIn leftPath) := by
  have hsame : sameType left.canonical right.canonical = true ↔
      left.canonical = right.canonical ∨ left.EndsIn right ∨ right.EndsIn left := by
    rw [sameType, Bool.or_eq_true, Bool.or_eq_true, beq_iff_eq, or_assoc,
      isPathSuffix_canonical_iff hleft.isBalanced hright.isBalanced,
      isPathSuffix_canonical_iff hright.isBalanced hleft.isBalanced]
  refine ⟨hsame, ?_⟩
  rintro leftPath rightPath rfl rfl
  rw [hsame, endsIn_path_iff hleft.isBalanced.of_path hright.isBalanced.of_path,
    endsIn_path_iff hright.isBalanced.of_path hleft.isBalanced.of_path]

/-- What a text is read as can be told by evaluation. -/
theorem exists_path_of_text {text canonical : String}
    (hread : (typeOfText? text).any (fun type =>
      type.lastSegment?.isSome && type.canonical == canonical) = true)
    (hquiet : hasQuietLiterals text = true) :
    ∃ path, IsTypeText text (.path path) ∧ (TypeExpr.path path).canonical = canonical := by
  cases htype : typeOfText? text with
  | none =>
      rw [htype] at hread
      cases hread
  | some type =>
      rw [htype, Option.any_some, Bool.and_eq_true, beq_iff_eq] at hread
      cases type with
      | path path => exact ⟨path, ⟨htype, hquiet⟩, hread.2⟩
      | _ => cases hread.1

/-- A path ends in its last segment, with generic arguments and a literal among them. -/
theorem sameType_iff_vec : ∃ left right,
    IsTypeText "alloc::vec::Vec<[u8; 4]>" (.path left) ∧ IsTypeText "Vec<[u8; 4]>" (.path right) ∧
      (left.EndsIn right ∨ right.EndsIn left) := by
  obtain ⟨left, hleft, hlong⟩ :
      ∃ path, IsTypeText "alloc::vec::Vec<[u8; 4]>" (.path path) ∧
        (TypeExpr.path path).canonical = "alloc::vec::Vec<[u8;4]>" :=
    exists_path_of_text (by decide +kernel) (by decide +kernel)
  obtain ⟨right, hright, hshort⟩ :
      ∃ path, IsTypeText "Vec<[u8; 4]>" (.path path) ∧
        (TypeExpr.path path).canonical = "Vec<[u8;4]>" :=
    exists_path_of_text (by decide +kernel) (by decide +kernel)
  have hsame : sameType "alloc::vec::Vec<[u8;4]>" "Vec<[u8;4]>" = true := by decide +kernel
  rw [← hlong, ← hshort] at hsame
  refine ⟨left, right, hleft, hright,
    (((sameType_iff hleft hright).2 left right rfl rfl).mp hsame).resolve_left ?_⟩
  rw [hlong, hshort]
  decide

/-- A reference to a path is taken for the same type as the last segment of the path. -/
theorem sameType_reference :
    (typeOfText? "&a::T").map TypeExpr.canonical = some "&a::T" ∧
      ((typeOfText? "&a::T").bind TypeExpr.lastSegment?).isNone = true ∧
      (typeOfText? "T").map TypeExpr.canonical = some "T" ∧
      "&a::T" ≠ "T" ∧ sameType "&a::T" "T" = true := by
  decide +kernel

end MarkedRoutes
