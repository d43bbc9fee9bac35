import MarkedRoutes.Proofs.Source.Nesting

/-!
# Where paths come apart

In the text of a path, a `::` at which nothing is open stands between two segments, unless an angle
bracket follows it.  So the canonical text of a path tells those of its segments, and a path text
that stands behind a `::` of another is that of its last segments.
-/

namespace MarkedRoutes.Source

open MarkedRoutes.Text

/-- The text by which a segment is compared with others. -/
def Segment.canonical (segment : Segment) : String := canonicalText segment.tokens

variable {lead text : List Char}

/-! ### What is open in front of a `::` -/

/-- Nothing is open between balanced tokens and others that stand behind a `::` of theirs. -/
theorem Balanced.isOutside_of_cut {long short : List Token} (hlong : Balanced long)
    (hshort : Balanced short) (heq : shown long = lead ++ ':' :: ':' :: shown short) :
    (Nesting.outside.after lead).IsOutside := by
  have hcolon : isPlainMark ':' = true := by decide
  have hpunct : Lexeme.punctuation.contains ':' = true := by decide
  have hlast : Nesting.outside.after (shown long) = Nesting.outside := hlong.after_shown 0
  rw [heq, Nesting.after_append, Nesting.after_cons, Nesting.after_cons] at hlast
  generalize Nesting.outside.after lead = place at hlast ⊢
  obtain ⟨groups, angles, dash⟩ := place
  cases groups with
  | zero =>
      rw [Nesting.step_outside hcolon, Nesting.step_outside hcolon, hshort.after_shown] at hlast
      exact ⟨rfl, congrArg Nesting.angles hlast⟩
  | succ groups =>
      rw [Nesting.step_inside hpunct, Nesting.step_inside hpunct,
        hshort.plain.after_inside] at hlast
      cases hlast

/-- A colon between angle brackets has one of them open. -/
theorem Balanced.not_isOutside_angles {inner : List Token} (hinner : Balanced inner)
    (heq : '<' :: (shown inner ++ ['>']) = lead ++ ':' :: text) :
    ¬(Nesting.outside.after lead).IsOutside := by
  cases lead with
  | nil => cases heq
  | cons c lead =>
      obtain ⟨rfl, htail⟩ := List.cons_eq_cons.mp heq
      rcases List.prefix_concat_iff.mp ⟨_, htail.symm⟩ with rfl | hlead
      · exact absurd htail (by simp)
      · exact hinner.within_prefix lead hlead 0

/-! ### Segments -/

section Segments

variable {segment : Segment} {segments : List Segment} {rest : List Char}

theorem Segment.shown_tokens (segment : Segment) : shown segment.tokens =
    visible segment.name.toList ++ match segment.arguments with
      | none => []
      | some arguments => (if arguments.turbofish then [':', ':'] else []) ++
          '<' :: (shown arguments.innerTokens ++ ['>']) := by
  obtain ⟨name, arguments⟩ := segment
  have hcolon : shown (operator [':', ':']) = [':', ':'] := by decide
  have hopen : shown [.punct '<' false] = ['<'] := by decide
  have hclose : shown [.punct '>' false] = ['>'] := by decide
  rw [Segment.tokens.eq_def, shown_cons (word name)]
  cases arguments with
  | none => rfl
  | some arguments =>
      dsimp only [Segment.arguments]
      rw [GenericArguments.tokens_eq, shown_append, shown_cons (.punct '<' false),
        shown_append arguments.innerTokens, hopen, hclose]
      split_ifs
      · rw [hcolon]
        rfl
      · rfl

/-- Within a segment, a colon outside of brackets is one of the `::` in front of its arguments. -/
theorem Segment.IsBalanced.colon_cases (hsegment : segment.IsBalanced)
    (heq : shown segment.tokens = lead ++ ':' :: text)
    (hlead : (Nesting.outside.after lead).IsOutside) :
    (∃ more, text = ':' :: '<' :: more) ∨ ∃ more, text = '<' :: more := by
  obtain ⟨-, hmarks⟩ := visible_plainText hsegment.name
  rw [Segment.shown_tokens] at heq
  obtain ⟨behind, rfl, hbehind⟩ := append_eq_append_colon heq fun more hname =>
    hmarks ':' (hname ▸ List.mem_append_right lead List.mem_cons_self) (by simp [typeMarks])
  rw [Nesting.after_append, Nesting.after_text hmarks] at hlead
  cases harguments : segment.arguments with
  | none =>
      rw [harguments] at hbehind
      exact absurd hbehind.symm (by simp)
  | some arguments =>
      have hinner := hsegment.arguments arguments harguments
      rw [harguments] at hbehind
      dsimp only at hbehind
      split_ifs at hbehind
      · cases behind with
        | nil =>
            cases hbehind
            exact .inl ⟨_, rfl⟩
        | cons first behind =>
            obtain ⟨rfl, htail⟩ := List.cons_eq_cons.mp hbehind
            cases behind with
            | nil =>
                cases htail
                exact .inr ⟨_, rfl⟩
            | cons second behind =>
                obtain ⟨rfl, hangles⟩ := List.cons_eq_cons.mp htail
                have hopen := hinner.not_isOutside_angles hangles
                exact absurd hlead hopen
      · exact absurd hlead (hinner.not_isOutside_angles hbehind)

/-- A `::` outside of brackets, with no angle bracket behind it, is not within a segment. -/
theorem Segment.IsBalanced.cut (hsegment : segment.IsBalanced)
    (heq : shown segment.tokens ++ rest = lead ++ ':' :: ':' :: text)
    (hlead : (Nesting.outside.after lead).IsOutside) (htext : text.head? ≠ some '<') :
    ∃ more, lead = shown segment.tokens ++ more ∧ rest = more ++ ':' :: ':' :: text := by
  refine append_eq_append_colon heq fun behind hbehind => ?_
  rw [hbehind, List.append_assoc, List.append_cancel_left_eq, List.cons_append,
    List.cons_eq_cons] at heq
  rcases hsegment.colon_cases hbehind hlead with ⟨more, rfl⟩ | ⟨more, rfl⟩
  · obtain ⟨-, hmore⟩ := List.cons_eq_cons.mp heq.2
    rw [← hmore] at htext
    exact htext rfl
  · cases heq.2

theorem segmentTokens_cons_cons (first second : Segment) (segments : List Segment) :
    segmentTokens (first :: second :: segments) = first.tokens ++
      .punct ':' true :: .punct ':' false :: segmentTokens (second :: segments) := by
  rw [segmentTokens]
  rfl

theorem shown_segmentTokens_cons (first second : Segment) (segments : List Segment) :
    shown (segmentTokens (first :: second :: segments)) = shown first.tokens ++
      ':' :: ':' :: shown (segmentTokens (second :: segments)) := by
  rw [segmentTokens_cons_cons, shown_append, shown_cons, shown_cons (.punct ':' false)]
  rfl

/-- The first character that shows of a path is one of a name. -/
theorem head_shown_ne (hsegments : ∀ segment ∈ segments, segment.IsBalanced)
    (hne : segments ≠ []) {mark : Char} (hmark : mark ∈ typeMarks) :
    (shown (segmentTokens segments)).head? ≠ some mark := by
  obtain ⟨first, segments, rfl⟩ := List.exists_cons_of_ne_nil hne
  obtain ⟨hname, hmarks⟩ := visible_plainText (hsegments first List.mem_cons_self).name
  obtain ⟨c, more, hmore⟩ := List.exists_cons_of_ne_nil hname
  have hhead : (shown (segmentTokens (first :: segments))).head? = some c := by
    cases segments with
    | nil =>
        rw [segmentTokens, Segment.shown_tokens, hmore]
        rfl
    | cons second segments =>
        rw [shown_segmentTokens_cons, Segment.shown_tokens, hmore]
        rfl
  rw [hhead]
  rintro ⟨⟩
  exact hmarks mark (hmore ▸ List.mem_cons_self) hmark

/-- A `::` in a text that a `::` stands before is that one, or stands behind it. -/
theorem colons_append_cases {behind : List Char} (hrest : rest.head? ≠ some ':')
    (heq : ':' :: ':' :: rest = behind ++ ':' :: ':' :: text) :
    behind = [] ∧ rest = text ∨
      ∃ more, behind = ':' :: ':' :: more ∧ rest = more ++ ':' :: ':' :: text := by
  cases behind with
  | nil =>
      cases heq
      exact .inl ⟨rfl, rfl⟩
  | cons first behind =>
      obtain ⟨rfl, hfirst⟩ := List.cons_eq_cons.mp heq
      cases behind with
      | nil =>
          cases hfirst
          exact absurd rfl hrest
      | cons second behind =>
          obtain ⟨rfl, hsecond⟩ := List.cons_eq_cons.mp hfirst
          exact .inr ⟨behind, rfl, hsecond⟩

/-- A `::` outside of brackets, with no angle bracket behind it, stands between segments. -/
theorem exists_segments_of_cut (hsegments : ∀ segment ∈ segments, segment.IsBalanced)
    (heq : shown (segmentTokens segments) = lead ++ ':' :: ':' :: text)
    (hlead : (Nesting.outside.after lead).IsOutside) (htext : text.head? ≠ some '<') :
    ∃ outer inner, segments = outer ++ inner ∧ outer ≠ [] ∧ inner ≠ [] ∧
      shown (segmentTokens outer) = lead ∧ shown (segmentTokens inner) = text := by
  induction segments generalizing lead with
  | nil =>
      rw [segmentTokens] at heq
      exact absurd heq.symm (by simp)
  | cons first segments ih =>
      obtain ⟨hfirst, hrest⟩ := List.forall_mem_cons.mp hsegments
      cases segments with
      | nil =>
          rw [segmentTokens, ← List.append_nil (shown first.tokens)] at heq
          obtain ⟨more, -, hmore⟩ := hfirst.cut heq hlead htext
          exact absurd hmore.symm (by simp)
      | cons second segments =>
          rw [shown_segmentTokens_cons] at heq
          obtain ⟨more, rfl, hmore⟩ := hfirst.cut heq hlead htext
          have hbehind : Nesting.outside.after (shown first.tokens) = Nesting.outside :=
            hfirst.tokens.after_shown 0
          rw [Nesting.after_append, hbehind] at hlead
          rcases colons_append_cases
            (head_shown_ne hrest (List.cons_ne_nil _ _) (by simp [typeMarks])) hmore with
            ⟨rfl, rfl⟩ | ⟨behind, rfl, hcut⟩
          · refine ⟨[first], second :: segments, rfl, (List.cons_ne_nil _ _),
              (List.cons_ne_nil _ _), ?_, rfl⟩
            rw [segmentTokens, List.append_nil]
          · obtain ⟨outer, inner, houter, hne, hinner, rfl, hshown⟩ := ih hrest hcut hlead
            obtain ⟨third, outer, rfl⟩ := List.exists_cons_of_ne_nil hne
            exact ⟨first :: third :: outer, inner, congrArg (first :: ·) houter,
              (List.cons_ne_nil _ _), hinner,
              shown_segmentTokens_cons first third outer, hshown⟩

end Segments

/-! ### Canonical texts of segments -/

section Canonical

variable {outer inner left right : List Segment}

theorem segmentTokens_append (houter : outer ≠ []) (hinner : inner ≠ []) :
    segmentTokens (outer ++ inner) =
      segmentTokens outer ++ .punct ':' true :: .punct ':' false :: segmentTokens inner := by
  obtain ⟨second, inner, rfl⟩ := List.exists_cons_of_ne_nil hinner
  induction outer with
  | nil => exact absurd rfl houter
  | cons first outer ih =>
      cases outer with
      | nil =>
          rw [List.singleton_append, segmentTokens_cons_cons]
          rw [segmentTokens]
      | cons third outer =>
          rw [List.cons_append, List.cons_append, segmentTokens_cons_cons, ← List.cons_append,
            ih (List.cons_ne_nil _ _), segmentTokens_cons_cons]
          simp only [List.append_assoc, List.cons_append]

theorem canonicalChars_segmentTokens_cons (first second : Segment) (segments : List Segment) :
    canonicalChars (segmentTokens (first :: second :: segments)) =
      canonicalChars first.tokens ++
        ':' :: ':' :: canonicalChars (segmentTokens (second :: segments)) := by
  rw [segmentTokens_cons_cons, canonicalChars_colons]

theorem canonicalChars_segmentTokens (segments : List Segment) :
    canonicalChars (segmentTokens segments) =
      join [':', ':'] ((segments.map Segment.canonical).map String.toList) := by
  induction segments with
  | nil =>
      rw [segmentTokens]
      rfl
  | cons first segments ih =>
      cases segments with
      | nil =>
          rw [segmentTokens, List.map_singleton, List.map_singleton, join, Segment.canonical,
            canonicalText_eq, String.toList_ofList]
      | cons second segments =>
          have hfirst : first.canonical.toList = canonicalChars first.tokens := String.toList_ofList
          rw [canonicalChars_segmentTokens_cons, ih, ← hfirst]
          rfl

theorem Segment.IsBalanced.isOutside {segment : Segment} (hsegment : segment.IsBalanced) :
    (Nesting.outside.after (shown segment.tokens)).IsOutside := by
  have hbehind : Nesting.outside.after (shown segment.tokens) = Nesting.outside :=
    hsegment.tokens.after_shown 0
  rw [hbehind]
  exact ⟨rfl, rfl⟩

/-- A segment does not show what two or more segments show. -/
theorem shown_segment_ne {first second third : Segment} (hfirst : first.IsBalanced)
    (hsecond : second.IsBalanced) (hright : ∀ segment ∈ third :: right, segment.IsBalanced) :
    shown (segmentTokens [first]) ≠ shown (segmentTokens (second :: third :: right)) := by
  intro heq
  rw [shown_segmentTokens_cons, segmentTokens, ← List.append_nil (shown first.tokens)] at heq
  obtain ⟨more, -, hmore⟩ := hfirst.cut heq hsecond.isOutside
    (head_shown_ne hright (List.cons_ne_nil _ _) (by simp [typeMarks]))
  exact absurd hmore.symm (by simp)

/-- Paths that show the same have first segments that show the same. -/
theorem shown_first_eq {first second third fourth : Segment} (hfirst : first.IsBalanced)
    (hsecond : second.IsBalanced) (hleft : ∀ segment ∈ third :: left, segment.IsBalanced)
    (hright : ∀ segment ∈ fourth :: right, segment.IsBalanced)
    (heq : shown (segmentTokens (first :: third :: left)) =
      shown (segmentTokens (second :: fourth :: right))) :
    shown first.tokens = shown second.tokens := by
  have hangle : '<' ∈ typeMarks := by simp [typeMarks]
  rw [shown_segmentTokens_cons, shown_segmentTokens_cons] at heq
  obtain ⟨more, hmore, -⟩ := hfirst.cut heq hsecond.isOutside
    (head_shown_ne hright (List.cons_ne_nil _ _) hangle)
  obtain ⟨less, hless, -⟩ :=
    hsecond.cut heq.symm hfirst.isOutside (head_shown_ne hleft (List.cons_ne_nil _ _) hangle)
  rw [hmore, List.append_assoc, List.self_eq_append_right, List.append_eq_nil_iff] at hless
  rw [hmore, hless.1, List.append_nil]

/-- Paths with the same canonical text have the same segments. -/
theorem map_canonical_eq (hleft : ∀ segment ∈ left, segment.IsBalanced)
    (hright : ∀ segment ∈ right, segment.IsBalanced) (hne : left ≠ []) (hne' : right ≠ [])
    (heq : canonicalChars (segmentTokens left) = canonicalChars (segmentTokens right)) :
    left.map Segment.canonical = right.map Segment.canonical := by
  induction left generalizing right with
  | nil => exact absurd rfl hne
  | cons first left ih =>
      obtain ⟨second, right, rfl⟩ := List.exists_cons_of_ne_nil hne'
      obtain ⟨hfirst, hleft⟩ := List.forall_mem_cons.mp hleft
      obtain ⟨hsecond, hright⟩ := List.forall_mem_cons.mp hright
      have hshown := congrArg visible heq
      rw [visible_canonicalChars, visible_canonicalChars] at hshown
      cases left with
      | nil =>
          cases right with
          | nil =>
              rw [segmentTokens, segmentTokens] at heq
              rw [List.map_singleton, List.map_singleton, Segment.canonical, Segment.canonical,
                canonicalText_eq, canonicalText_eq, heq]
          | cons fourth right =>
              exact absurd hshown (shown_segment_ne hfirst hsecond hright)
      | cons third left =>
          cases right with
          | nil => exact absurd hshown.symm (shown_segment_ne hsecond hfirst hleft)
          | cons fourth right =>
              have hsame := shown_first_eq hfirst hsecond hleft hright hshown
              rw [← visible_canonicalChars, ← visible_canonicalChars] at hsame
              rw [canonicalChars_segmentTokens_cons, canonicalChars_segmentTokens_cons] at heq
              obtain ⟨hcanonical, hbehind⟩ := append_colon_inj hsame heq
              rw [List.map_cons, ih hleft hright (List.cons_ne_nil _ _) (List.cons_ne_nil _ _)
                (List.tail_eq_of_cons_eq hbehind),
                Segment.canonical, canonicalText_eq, hcanonical]
              rfl

end Canonical

/-! ### Paths -/

section Paths

variable {path : Path}

theorem Path.tokens_append (rooted : Bool) {outer inner : List Segment} (houter : outer ≠ [])
    (hinner : inner ≠ []) :
    (Path.mk rooted (outer ++ inner)).tokens = (Path.mk rooted outer).tokens ++
      .punct ':' true :: .punct ':' false :: segmentTokens inner := by
  rw [Path.tokens, Path.tokens, segmentTokens_append houter hinner, List.append_assoc]

theorem Path.tokens_ne_nil (rooted : Bool) {segments : List Segment} (hne : segments ≠ []) :
    (Path.mk rooted segments).tokens ≠ [] := by
  obtain ⟨first, segments, rfl⟩ := List.exists_cons_of_ne_nil hne
  have hfirst : first.tokens ≠ [] := by
    cases first
    rw [Segment.tokens.eq_def]
    exact List.cons_ne_nil _ _
  rw [Path.tokens]
  refine List.append_ne_nil_of_right_ne_nil _ ?_
  cases segments with
  | nil => rwa [segmentTokens]
  | cons second segments =>
      rw [segmentTokens_cons_cons]
      exact List.append_ne_nil_of_left_ne_nil hfirst _

theorem Path.shown_tokens (rooted : Bool) (segments : List Segment) :
    shown (Path.mk rooted segments).tokens =
      (if rooted then [':', ':'] else []) ++ shown (segmentTokens segments) := by
  have hcolons : shown (operator [':', ':']) = [':', ':'] := by decide
  rw [Path.tokens, shown_append]
  split_ifs
  · rw [hcolons]
  · rfl

/-- A `::` behind the first segment of a path, outside of brackets and with no angle bracket behind
it, stands between segments. -/
theorem Path.IsBalanced.exists_segments_of_cut (hpath : path.IsBalanced)
    (heq : shown path.tokens = lead ++ ':' :: ':' :: text) (hne : lead ≠ [])
    (hlead : (Nesting.outside.after lead).IsOutside) (htext : text.head? ≠ some '<') :
    ∃ outer inner, path.segments = outer ++ inner ∧ outer ≠ [] ∧ inner ≠ [] ∧
      shown (Path.mk path.rooted outer).tokens = lead ∧ shown (segmentTokens inner) = text := by
  obtain ⟨rooted, segments⟩ := path
  obtain ⟨hsome, hsegments⟩ := hpath
  dsimp only [Path.segments, Path.rooted] at hsome hsegments ⊢
  rw [Path.shown_tokens] at heq
  cases rooted with
  | false =>
      obtain ⟨outer, inner, hparts, houter, hinner, hshown, hbehind⟩ :=
        Source.exists_segments_of_cut hsegments heq hlead htext
      exact ⟨outer, inner, hparts, houter, hinner, (Path.shown_tokens false outer).trans hshown,
        hbehind⟩
  | true =>
      rcases colons_append_cases (head_shown_ne hsegments hsome (by simp [typeMarks])) heq with
        ⟨hnil, -⟩ | ⟨behind, rfl, hcut⟩
      · exact absurd hnil hne
      · obtain ⟨outer, inner, hparts, houter, hinner, rfl, hbehind⟩ :=
          Source.exists_segments_of_cut hsegments hcut hlead htext
        exact ⟨outer, inner, hparts, houter, hinner, Path.shown_tokens true outer, hbehind⟩

theorem Path.IsBalanced.head_shown_ne_angle (hpath : path.IsBalanced) :
    (shown path.tokens).head? ≠ some '<' := by
  obtain ⟨rooted, segments⟩ := path
  rw [Path.shown_tokens]
  cases rooted with
  | false => exact head_shown_ne hpath.segments hpath.segments_ne_nil (by simp [typeMarks])
  | true =>
      intro heq
      cases heq

end Paths

end MarkedRoutes.Source
