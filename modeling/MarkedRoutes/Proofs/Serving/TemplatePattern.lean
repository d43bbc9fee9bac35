import MarkedRoutes.Serving.Matching
import MarkedRoutes.Template
import Mathlib.Data.List.Basic

/-!
# Reading the pattern of a template

The pattern of a template is written as a text and read back.  This module says
what is read: for every part of the template the items of `partItems`, between
the two ends of the text.  No character of a literal has a meaning of its own in
what is read, and the pattern of every template can be read.
-/

namespace MarkedRoutes.Serving

open MarkedRoutes.Text

/-! ### Segments and parts -/

theorem dropFront?_singleton_cons (expected c : Char) (rest : List Char) :
    dropFront? [expected] (c :: rest) = if expected = c then some rest else none := rfl

theorem dropBack?_singleton (c : Char) (text : List Char) :
    dropBack? [c] text = if text.getLast? = some c then some text.dropLast else none := by
  rcases List.eq_nil_or_concat text with rfl | ⟨lead, last, rfl⟩
  · rfl
  · by_cases hlast : c = last
    · simp [dropBack?, dropFront?, hlast]
    · have hne : last ≠ c := fun heq => hlast heq.symm
      simp [dropBack?, dropFront?, hlast, hne]

theorem bracedName?_eq (segment : List Char) : bracedName? segment = Part.braced? segment := by
  cases segment with
  | nil => rfl
  | cons c rest =>
      by_cases hopen : c = '\x7b'
      · subst hopen
        rw [bracedName?, dropFront?_singleton_cons, if_pos rfl, Option.bind_some,
          dropBack?_singleton]
        rfl
      · rw [bracedName?, dropFront?_singleton_cons, if_neg fun heq => hopen heq.symm]
        unfold Part.braced?
        split
        · next heq => exact absurd (List.cons.inj heq).1 hopen
        · rfl

/-- The pattern of a part as a text, with the name that it captures. -/
def partPattern : Part → List Char × Option String
  | .literal text => ('/' :: escapePattern text.toList, none)
  | .placeholder name false => (requiredPattern, some name)
  | .placeholder name true => (optionalPattern, some name)

/-- The router and the compiler read a segment in the same way. -/
theorem segmentPattern_eq (segment : List Char) :
    segmentPattern segment = partPattern (Part.ofText segment) := by
  rw [segmentPattern, Part.ofText, bracedName?_eq]
  cases Part.braced? segment with
  | none => simp [partPattern]
  | some inner =>
      simp only [dropBack?_singleton]
      by_cases hoptional : inner.getLast? = some '?'
      · simp [hoptional, partPattern]
      · simp [hoptional, partPattern]

/-- The parts of a template between slashes that are not empty. -/
def templateParts (template : String) : List Part :=
  (templateSegments template).map Part.ofText

def placeholderName? : Part → Option String
  | .literal _ => none
  | .placeholder name _ => some name

theorem capturedNames_eq (template : String) :
    capturedNames template = (templateParts template).filterMap placeholderName? := by
  rw [capturedNames, templateParts, List.filterMap_map]
  congr 1
  funext segment
  rw [segmentPattern_eq, Function.comp_apply]
  rcases Part.ofText segment with text | ⟨name, _ | _⟩ <;> rfl

theorem partPattern_ne_nil (part : Part) : (partPattern part).1 ≠ [] := by
  rcases part with text | ⟨name, _ | _⟩ <;> exact List.cons_ne_nil _ _

/-! ### Signs -/

/-- The signs that the pattern of a part is written with. -/
def partTokens : Part → List PatternToken
  | .literal text => ('/' :: text.toList).map fun c => .set (.only c)
  | .placeholder _ false =>
      [.set (.only '/'), .openCapture, .set (.except '/'), .repeated, .close]
  | .placeholder _ true =>
      [.openGroup, .set (.only '/'), .openCapture, .set (.except '/'), .repeated, .close,
        .close, .optional]

/-- A character without a meaning of its own stands for itself. -/
theorem patternTokens?_plain {c : Char} (hplain : patternSigns.contains c = false)
    (rest : List Char) :
    patternTokens? (c :: rest) = (patternTokens? rest).map (.set (.only c) :: ·) := by
  have hsign : ∀ sign ∈ patternSigns, c ≠ sign := by
    intro sign hmem heq
    rw [heq, List.contains_iff_mem.mpr hmem] at hplain
    exact Bool.noConfusion hplain
  rw [patternTokens?.eq_def]
  split
  · next heq => exact absurd heq (List.cons_ne_nil _ _)
  · next heq => exact absurd (List.cons.inj heq).1 (hsign _ (by decide))
  · next heq => exact absurd (List.cons.inj heq).1 (hsign _ (by decide))
  · next heq => exact absurd (List.cons.inj heq).1 (hsign _ (by decide))
  · next heq => exact absurd (List.cons.inj heq).1 (hsign _ (by decide))
  · next heq => exact absurd (List.cons.inj heq).1 (hsign _ (by decide))
  · next heq => exact absurd (List.cons.inj heq).1 (hsign _ (by decide))
  · next heq => exact absurd (List.cons.inj heq).1 (hsign _ (by decide))
  · next heq => exact absurd (List.cons.inj heq).1 (hsign _ (by decide))
  · next heq => exact absurd (List.cons.inj heq).1 (hsign _ (by decide))
  · next heq =>
      obtain ⟨rfl, rfl⟩ := List.cons.inj heq
      rw [hplain]
      rfl

theorem patternTokens?_escaped {c : Char} (hsign : patternSigns.contains c = true)
    (rest : List Char) :
    patternTokens? ('\\' :: c :: rest) = (patternTokens? rest).map (.set (.only c) :: ·) := by
  rw [patternTokens?, hsign]
  rfl

/-- Escaping takes every character's meaning away. -/
theorem patternTokens?_escapePattern (text rest : List Char) :
    patternTokens? (escapePattern text ++ rest) =
      (patternTokens? rest).map ((text.map fun c => .set (.only c)) ++ ·) := by
  induction text with
  | nil => simp [escapePattern]
  | cons c text ih =>
      have hread : patternTokens? (escapePattern (c :: text) ++ rest) =
          (patternTokens? (escapePattern text ++ rest)).map (.set (.only c) :: ·) := by
        rw [escapePattern, List.flatMap_cons]
        cases hsign : patternSigns.contains c with
        | true => exact patternTokens?_escaped hsign (escapePattern text ++ rest)
        | false => exact patternTokens?_plain hsign (escapePattern text ++ rest)
      rw [hread, ih, Option.map_map]
      rfl

theorem patternTokens?_slash (rest : List Char) :
    patternTokens? ('/' :: rest) = (patternTokens? rest).map (.set (.only '/') :: ·) :=
  patternTokens?_plain (by decide) rest

theorem patternTokens?_class (rest : List Char) :
    patternTokens? ('[' :: '^' :: '/' :: ']' :: rest) =
      (patternTokens? rest).map (.set (.except '/') :: ·) := by
  rw [patternTokens?, if_neg (by decide)]

theorem patternTokens?_openCapture {c : Char} (hc : c ≠ '?') (rest : List Char) :
    patternTokens? ('(' :: c :: rest) =
      (patternTokens? (c :: rest)).map (.openCapture :: ·) := by
  rw [patternTokens?]
  intro _ heq
  exact hc (List.cons.inj heq).1

theorem patternTokens?_requiredPattern (rest : List Char) :
    patternTokens? (requiredPattern ++ rest) =
      (patternTokens? rest).map
        ([.set (.only '/'), .openCapture, .set (.except '/'), .repeated, .close] ++ ·) := by
  have hquantifier : patternTokens? ('+' :: ')' :: rest) =
      (patternTokens? rest).map ([.repeated, .close] ++ ·) := by
    rw [patternTokens?, patternTokens?, Option.map_map]
    rfl
  rw [requiredPattern, List.cons_append, patternTokens?_slash, List.cons_append, List.cons_append,
    patternTokens?_openCapture (by decide), List.cons_append, List.cons_append, List.cons_append,
    patternTokens?_class, List.cons_append, List.cons_append, List.nil_append, hquantifier,
    Option.map_map, Option.map_map, Option.map_map]
  rfl

theorem patternTokens?_partPattern (part : Part) (rest : List Char) :
    patternTokens? ((partPattern part).1 ++ rest) =
      (patternTokens? rest).map (partTokens part ++ ·) := by
  rcases part with text | ⟨name, _ | _⟩
  · rw [partPattern, List.cons_append, patternTokens?_slash, patternTokens?_escapePattern,
      Option.map_map]
    rfl
  · exact patternTokens?_requiredPattern rest
  · have hopen : ∀ text, patternTokens? ('(' :: '?' :: ':' :: text) =
        (patternTokens? text).map (.openGroup :: ·) := fun text => by rw [patternTokens?]
    have hclose : patternTokens? (')' :: '?' :: rest) =
        (patternTokens? rest).map ([.close, .optional] ++ ·) := by
      rw [patternTokens?, patternTokens?, Option.map_map]
      rfl
    rw [partPattern, optionalPattern, List.append_assoc, List.append_assoc, List.cons_append,
      List.cons_append, List.cons_append, List.nil_append, hopen,
      patternTokens?_requiredPattern, List.cons_append, List.cons_append, List.nil_append, hclose,
      Option.map_map, Option.map_map]
    rfl

theorem patternTokens?_partPatterns (parts : List Part) (rest : List Char) :
    patternTokens? ((parts.flatMap fun part => (partPattern part).1) ++ rest) =
      (patternTokens? rest).map (parts.flatMap partTokens ++ ·) := by
  induction parts with
  | nil => simp
  | cons part parts ih =>
      rw [List.flatMap_cons, List.append_assoc, patternTokens?_partPattern, ih, Option.map_map]
      simp [Function.comp_def]

/-- The signs behind the parts: a slash may follow, and a template without parts is that
slash alone. -/
def closingTokens (parts : List Part) : List PatternToken :=
  (if parts.isEmpty then [.set (.only '/')] else [.set (.only '/'), .optional]) ++ [.textEnd]

theorem patternTokens?_closing (parts : List Part) :
    patternTokens? ((if parts.isEmpty then ['/'] else ['/', '?']) ++ ['$']) =
      some (closingTokens parts) := by
  cases parts with
  | nil => rw [List.isEmpty_nil, if_pos rfl, List.cons_append, patternTokens?_slash]; rfl
  | cons part parts =>
      rw [List.isEmpty_cons, if_neg Bool.false_ne_true, List.cons_append, patternTokens?_slash]
      rfl

/-- The pattern of a template, part by part. -/
theorem templatePattern_eq (template : String) :
    templatePattern template =
      '^' :: ((templateParts template).flatMap fun part => (partPattern part).1) ++
        ((if (templateParts template).isEmpty then ['/'] else ['/', '?']) ++ ['$']) := by
  have hbody : (templateSegments template).flatMap (fun segment => (segmentPattern segment).1) =
      (templateParts template).flatMap fun part => (partPattern part).1 := by
    rw [templateParts, List.flatMap_map]
    simp only [segmentPattern_eq]
  simp only [templatePattern, hbody, capturedNames_eq]
  cases templateParts template with
  | nil => rfl
  | cons part parts =>
      obtain ⟨c, text, hpart⟩ := List.exists_cons_of_ne_nil (partPattern_ne_nil part)
      simp [hpart]

theorem patternTokens?_templatePattern (template : String) :
    patternTokens? (templatePattern template) =
      some (.textStart :: ((templateParts template).flatMap partTokens ++
        closingTokens (templateParts template))) := by
  rw [templatePattern_eq, List.cons_append, patternTokens?, patternTokens?_partPatterns,
    patternTokens?_closing]
  rfl

/-! ### Items -/

/-- The items that match a slash and capture the segment behind it. -/
def capturingItems (group : ℕ) : List Pattern :=
  [.one (.only '/'), .capture group (.sequence [.many (.except '/')])]

/-- The items that match a part; a placeholder captures with the group of the given
number. -/
def partItems (group : ℕ) : Part → List Pattern
  | .literal text => ('/' :: text.toList).map fun c => .one (.only c)
  | .placeholder _ false => capturingItems group
  | .placeholder _ true => [.optional (.sequence (capturingItems group))]

/-- The number of groups in the pattern of a part. -/
def groupCount : Part → ℕ
  | .literal _ => 0
  | .placeholder _ _ => 1

/-- The items that match parts in order, with groups numbered from `group` on. -/
def partsItems (group : ℕ) : List Part → List Pattern
  | [] => []
  | part :: parts => partItems group part ++ partsItems (group + groupCount part) parts

def closingItems (parts : List Part) : List Pattern :=
  (if parts.isEmpty then [.one (.only '/')] else [.optional (.one (.only '/'))]) ++ [.textEnd]

/-- The pattern that matches the paths of a template with these parts. -/
def pathPattern (parts : List Part) : Pattern :=
  .sequence (.textStart :: (partsItems 1 parts ++ closingItems parts))

theorem foldlM_step_literal (groups : ℕ) (items : List Pattern)
    (outer : List (Option ℕ × List Pattern)) (text : List Char) :
    (text.map fun c => PatternToken.set (.only c)).foldlM PatternReader.step
        ⟨groups, items, outer⟩ =
      some ⟨groups, (text.map fun c => Pattern.one (.only c)).reverse ++ items, outer⟩ := by
  induction text generalizing items with
  | nil => rfl
  | cons c text ih =>
      rw [List.map_cons, List.foldlM_cons, List.map_cons, List.reverse_cons, List.append_assoc]
      exact ih (.one (.only c) :: items)

theorem foldlM_step_partTokens (groups : ℕ) (items : List Pattern)
    (outer : List (Option ℕ × List Pattern)) (part : Part) :
    (partTokens part).foldlM PatternReader.step ⟨groups, items, outer⟩ =
      some ⟨groups + groupCount part, (partItems (groups + 1) part).reverse ++ items, outer⟩ := by
  rcases part with text | ⟨name, _ | _⟩
  · exact foldlM_step_literal groups items outer ('/' :: text.toList)
  · rfl
  · rfl

/-- Reading the signs of parts appends their items. -/
theorem foldlM_step_partsTokens (groups : ℕ) (items : List Pattern)
    (outer : List (Option ℕ × List Pattern)) (parts : List Part) :
    ∃ last, (parts.flatMap partTokens).foldlM PatternReader.step ⟨groups, items, outer⟩ =
      some ⟨last, (partsItems (groups + 1) parts).reverse ++ items, outer⟩ := by
  induction parts generalizing groups items with
  | nil => exact ⟨groups, rfl⟩
  | cons part parts ih =>
      obtain ⟨last, hlast⟩ :=
        ih (groups + groupCount part) ((partItems (groups + 1) part).reverse ++ items)
      refine ⟨last, ?_⟩
      rw [List.flatMap_cons, List.foldlM_append, foldlM_step_partTokens]
      apply hlast.trans
      rw [partsItems, List.reverse_append, List.append_assoc, Nat.add_right_comm]

theorem foldlM_step_closingTokens (groups : ℕ) (items : List Pattern) (parts : List Part) :
    (closingTokens parts).foldlM PatternReader.step ⟨groups, items, []⟩ =
      some ⟨groups, (closingItems parts).reverse ++ items, []⟩ := by
  cases parts <;> rfl

/-- The pattern of every template can be read, and this is what is read. -/
theorem ofText?_templatePattern (template : String) :
    Pattern.ofText? (templatePattern template) = some (pathPattern (templateParts template)) := by
  obtain ⟨last, hparts⟩ :=
    foldlM_step_partsTokens 0 [.textStart] [] (templateParts template)
  have htokens : (PatternToken.textStart :: ((templateParts template).flatMap partTokens ++
      closingTokens (templateParts template))).foldlM PatternReader.step .start =
      some ⟨last, (closingItems (templateParts template)).reverse ++
        ((partsItems 1 (templateParts template)).reverse ++ [.textStart]), []⟩ := by
    rw [List.foldlM_cons]
    change List.foldlM PatternReader.step ⟨0, [.textStart], []⟩ _ = _
    rw [List.foldlM_append, hparts]
    exact foldlM_step_closingTokens last _ _
  rw [Pattern.ofText?, patternTokens?_templatePattern]
  change (List.foldlM PatternReader.step .start _ >>= PatternReader.finish) = _
  rw [htokens]
  change some (Pattern.sequence _) = _
  simp [pathPattern]

/-! ### The matcher of a template -/

def templateMatcher (template : String) : PathMatcher :=
  ⟨pathPattern (templateParts template), (templateParts template).filterMap placeholderName?⟩

/-- The pattern of a template is within the limit of the engine. -/
def AcceptsTemplate [PatternEngine] (template : String) : Prop :=
  PatternEngine.compiledSize (templateMatcher template).pattern ≤ PatternEngine.sizeLimit

instance [PatternEngine] (template : String) : Decidable (AcceptsTemplate template) :=
  inferInstanceAs (Decidable (_ ≤ _))

/-- A template has a matcher when the engine accepts its pattern, and only its size can be
held against it. -/
theorem ofTemplate?_eq [PatternEngine] (template : String) :
    PathMatcher.ofTemplate? template =
      if AcceptsTemplate template then some (templateMatcher template) else none := by
  rw [PathMatcher.ofTemplate?, PatternEngine.compile?, ofText?_templatePattern, capturedNames_eq,
    Option.filter_some, apply_ite (Option.map _)]
  exact if_congr decide_eq_true_iff rfl rfl

end MarkedRoutes.Serving
