import MarkedRoutes.Proofs.Serving.PathMatching

/-!
# Running the pattern of a template

The pattern of a template, run on a path, captures what the segment-wise matcher
chooses.  The proof goes from part to part with the rest of the pattern as the
continuation.  That continuation only accepts the end of the path or a slash, so
that giving back characters of a captured segment never helps.
-/

namespace MarkedRoutes.Serving

open MarkedRoutes.Text

/-! ### Runs of single patterns -/

variable {β : Type}

/-- A continuation that only accepts the end of the text or a slash. -/
def AcceptsAtSlash (next : Progress → Option β) : Prop :=
  ∀ there, (next there).isSome = true → StopsAtSlash there.rest

theorem AcceptsAtSlash.eq_none {next : Progress → Option β} (hnext : AcceptsAtSlash next)
    {isStart : Bool} {rest : List Char} {captures : Captures} (hrest : ¬ StopsAtSlash rest) :
    next ⟨isStart, rest, captures⟩ = none := by
  cases hresult : next ⟨isStart, rest, captures⟩ with
  | none => rfl
  | some result => exact absurd (hnext _ (Option.isSome_of_eq_some hresult)) hrest

theorem run_sequence_append (first second : List Pattern) (next : Progress → Option β)
    (here : Progress) :
    (Pattern.sequence (first ++ second)).run next here =
      (Pattern.sequence first).run ((Pattern.sequence second).run next) here := by
  induction first generalizing here with
  | nil => rfl
  | cons item first ih =>
      simp only [List.cons_append, Pattern.sequence, Pattern.run]
      congr 1
      funext there
      exact ih there

/-- Characters in a row match the text that they are. -/
theorem run_literal (text : List Char) (next : Progress → Option β) (isStart : Bool)
    (rest : List Char) (captures : Captures) :
    (Pattern.sequence (text.map fun c => .one (.only c))).run next ⟨isStart, rest, captures⟩ =
      (dropFront? text rest).bind fun behind =>
        next ⟨isStart && text.isEmpty, behind, captures⟩ := by
  induction text generalizing isStart rest with
  | nil => simp [Pattern.sequence, Pattern.run, dropFront?]
  | cons c text ih =>
      cases rest with
      | nil => rfl
      | cons d rest =>
          rw [List.map_cons, Pattern.sequence, Pattern.run, Pattern.run, dropFront?]
          simp only [CharSet.contains, beq_iff_eq, eq_comm (a := d)]
          by_cases hc : c = d
          · simp [hc, ih]
          · simp [hc]

/-- A repeated set takes everything up to the first slash, and at least one character. -/
theorem runMany_eq {next : Progress → Option β} (hnext : AcceptsAtSlash next)
    (captures : Captures) (text : List Char) :
    Pattern.runMany (.except '/') next captures text =
      if (firstPiece text).isEmpty then none else next ⟨false, afterPiece text, captures⟩ := by
  induction text with
  | nil => rfl
  | cons c text ih =>
      by_cases hslash : c = '/'
      · subst hslash
        rfl
      · have hin : (CharSet.except '/').contains c = true := bne_iff_ne.mpr hslash
        have hfirst : firstPiece (c :: text) = c :: firstPiece text :=
          List.takeWhile_cons_of_pos hin
        have hafter : afterPiece (c :: text) = afterPiece text :=
          List.dropWhile_cons_of_pos hin
        rw [Pattern.runMany, if_pos hin, ih, hfirst, hafter, List.isEmpty_cons,
          if_neg Bool.false_ne_true]
        by_cases hempty : (firstPiece text).isEmpty = true
        · have hrest : afterPiece text = text := by
            conv_rhs => rw [← firstPiece_append_afterPiece text]
            rw [List.isEmpty_iff.mp hempty, List.nil_append]
          rw [if_pos hempty, Option.none_or, hrest]
        · -- Stopping before the first slash leaves a character that nothing accepts.
          have hmore : ¬ StopsAtSlash text := by
            rintro (rfl | ⟨rest, rfl⟩)
            · exact hempty rfl
            · exact hempty rfl
          rw [if_neg hempty, hnext.eq_none hmore, Option.or_none]

theorem keep_afterPiece (isStart : Bool) (text : List Char) (captures : Captures)
    (group : ℕ) :
    Progress.keep ⟨isStart, text, captures⟩ group ⟨false, afterPiece text, captures⟩ =
      ⟨false, afterPiece text, (group, firstPiece text) :: captures⟩ := by
  have htext := congrArg List.length (firstPiece_append_afterPiece text)
  rw [List.length_append] at htext
  have hlength : text.length - (afterPiece text).length = (firstPiece text).length := by omega
  have htaken : text.take (firstPiece text).length = firstPiece text :=
    (List.prefix_iff_eq_take.mp (List.takeWhile_prefix _)).symm
  rw [Progress.keep, hlength, htaken]

/-! ### Runs of parts -/

/-- What is captured when a part is kept or left out. -/
def partCaptures (group : ℕ) : Part → Option (List Char) → Captures
  | .placeholder _ _, some piece => [(group, piece)]
  | _, _ => []

/-- What the groups of parts capture by a selection, numbered from `group` on. -/
def selectionCaptures (group : ℕ) : List Part → Selection → Captures
  | part :: parts, kept :: selection =>
      selectionCaptures (group + groupCount part) parts selection ++
        partCaptures group part kept
  | _, _ => []

theorem run_slash (next : Progress → Option β) (isStart : Bool) (path : List Char)
    (captures : Captures) :
    (Pattern.one (.only '/')).run next ⟨isStart, path, captures⟩ =
      (dropFront? ['/'] path).bind fun text => next ⟨false, text, captures⟩ := by
  cases path with
  | nil => rfl
  | cons c rest =>
      rw [Pattern.run, dropFront?_singleton_cons]
      simp only [CharSet.contains, beq_iff_eq, eq_comm (a := c)]
      split <;> rfl

/-- A slash and a captured segment. -/
theorem run_capturingItems {next : Progress → Option β} (hnext : AcceptsAtSlash next)
    (group : ℕ) (isStart : Bool) (path : List Char) (captures : Captures) :
    (Pattern.sequence (capturingItems group)).run next ⟨isStart, path, captures⟩ =
      (dropFront? ['/'] path).bind fun text =>
        if (firstPiece text).isEmpty then none
        else next ⟨false, afterPiece text, (group, firstPiece text) :: captures⟩ := by
  change (Pattern.one (.only '/')).run _ _ = _
  rw [run_slash]
  congr 1
  funext text
  have hkeep : AcceptsAtSlash fun there =>
      next (Progress.keep ⟨false, text, captures⟩ group there) :=
    fun there hthere => hnext (Progress.keep ⟨false, text, captures⟩ group there) hthere
  refine (runMany_eq hkeep captures text).trans ?_
  rw [keep_afterPiece]

/-- Characters in a row are the first piece, or what is behind them is not accepted. -/
theorem bind_dropFront?_eq {next : Progress → Option β} (hnext : AcceptsAtSlash next)
    {literal : List Char} (hliteral : '/' ∉ literal) (text : List Char) (captures : Captures) :
    ((dropFront? literal text).bind fun behind => next ⟨false, behind, captures⟩) =
      if literal = firstPiece text then next ⟨false, afterPiece text, captures⟩ else none := by
  by_cases hfirst : literal = firstPiece text
  · have htext : dropFront? literal text = some (afterPiece text) :=
      dropFront?_eq_some_iff.mpr (by rw [hfirst, firstPiece_append_afterPiece])
    rw [if_pos hfirst, htext, Option.bind_some]
  · rw [if_neg hfirst]
    cases hdrop : dropFront? literal text with
    | none => rfl
    | some behind =>
        have htext : text = literal ++ behind := dropFront?_eq_some_iff.mp hdrop
        have hbehind : ¬ StopsAtSlash behind := fun hstops =>
          hfirst (by rw [htext, (split_append hliteral hstops).1])
        rw [Option.bind_some, hnext.eq_none hbehind]

theorem run_partItems {next : Progress → Option β} (hnext : AcceptsAtSlash next)
    {part : Part} (hslashless : ∀ text, part = .literal text → '/' ∉ text.toList)
    (group : ℕ) (isStart : Bool) (path : List Char) (captures : Captures) :
    (Pattern.sequence (partItems group part)).run next ⟨isStart, path, captures⟩ =
      ((dropFront? ['/'] path).bind fun text =>
        if admits part (firstPiece text) then
          next ⟨false, afterPiece text,
            partCaptures group part (some (firstPiece text)) ++ captures⟩
        else none).or
      (if isOptional part then next ⟨isStart, path, captures⟩ else none) := by
  rcases part with literal | ⟨name, _ | _⟩
  · have hliteral : '/' ∉ literal.toList := hslashless literal rfl
    rw [partItems, List.map_cons, Pattern.sequence, Pattern.run, run_slash, isOptional,
      if_neg Bool.false_ne_true, Option.or_none]
    congr 1
    funext text
    rw [run_literal, Bool.false_and, bind_dropFront?_eq hnext hliteral]
    simp only [admits, beq_iff_eq]
    rfl
  · rw [partItems, run_capturingItems hnext, isOptional, if_neg Bool.false_ne_true,
      Option.or_none]
    congr 1
    funext text
    cases hempty : (firstPiece text).isEmpty <;> simp [admits, hempty, partCaptures]
  · change ((Pattern.sequence (capturingItems group)).run next _).or (next _) = _
    rw [run_capturingItems hnext, isOptional, if_pos rfl]
    congr 2
    funext text
    cases hempty : (firstPiece text).isEmpty <;> simp [admits, hempty, partCaptures]

/-- The slash that may follow, and the end of the path. -/
theorem run_closing (captures : Captures) (isStart : Bool) (path : List Char) :
    (Pattern.sequence [.optional (.one (.only '/')), .textEnd]).run
        (fun there => some there.captures) ⟨isStart, path, captures⟩ =
      if path = [] ∨ path = ['/'] then some captures else none := by
  change ((Pattern.one (.only '/')).run _ _).or _ = _
  rw [run_slash]
  rcases path with _ | ⟨c, _ | ⟨d, rest⟩⟩
  · rfl
  · rw [dropFront?_singleton_cons]
    by_cases hslash : '/' = c
    · subst hslash
      rfl
    · have hne : ¬ ([c] = ['/']) := fun heq => hslash (List.cons.inj heq).1.symm
      simp [hslash, hne, Pattern.sequence, Pattern.run]
  · rw [dropFront?_singleton_cons]
    by_cases hslash : '/' = c
    · subst hslash
      simp [Pattern.sequence, Pattern.run]
    · simp [hslash, Pattern.sequence, Pattern.run]

/-- Running the items of parts captures what the matcher chooses. -/
theorem run_partsItems {parts : List Part} (hslashless : Slashless parts) (group : ℕ)
    (isStart : Bool) (path : List Char) (captures : Captures) :
    (Pattern.sequence (partsItems group parts ++ [.optional (.one (.only '/')), .textEnd])).run
        (fun there => some there.captures) ⟨isStart, path, captures⟩ =
      (choose parts path).map fun selection =>
        selectionCaptures group parts selection ++ captures := by
  induction parts generalizing group isStart path captures with
  | nil =>
      refine (run_closing captures isStart path).trans ?_
      rw [choose]
      split <;> rfl
  | cons part parts ih =>
      have hparts : Slashless parts := fun text hmem =>
        hslashless text (List.mem_cons_of_mem part hmem)
      have hpart : ∀ text, part = .literal text → '/' ∉ text.toList := fun text heq =>
        hslashless text (heq ▸ List.mem_cons_self)
      have hrest := ih hparts (group + groupCount part)
      have hnext : AcceptsAtSlash ((Pattern.sequence (partsItems (group + groupCount part) parts ++
          [.optional (.one (.only '/')), .textEnd])).run (fun there => some there.captures)) := by
        rintro ⟨isStart, rest, captures⟩ hsome
        rw [hrest, Option.isSome_map] at hsome
        obtain ⟨selection, hselection⟩ := Option.isSome_iff_exists.mp hsome
        exact stopsAtSlash_of_choose hselection
      rw [partsItems, List.append_assoc, run_sequence_append, run_partItems hnext hpart, choose,
        Option.map_or, Option.map_bind]
      congr 1
      · congr 1
        funext text
        rw [Function.comp_apply, hrest]
        split
        · simp [selectionCaptures, Function.comp_def]
        · rfl
      · rw [hrest]
        split
        · cases part <;> simp [selectionCaptures, partCaptures, Function.comp_def]
        · rfl

end MarkedRoutes.Serving
