import MarkedRoutes.Proofs.Source.BalancedTypes
import MarkedRoutes.Proofs.Source.CanonicalText

/-!
# How deep a character lies

Reading the characters of a type one by one, it can be told how many groups and how many pairs of
angle brackets are open, without knowing the tokens.  Between balanced tokens and around them the
count is the same, and inside a group or a pair of angle brackets it is higher.  So a `::` at which
nothing is open stands between tokens that are not in a group, and in a path between its segments.
-/

namespace MarkedRoutes.Source

open MarkedRoutes.Text

/-- What is open at a place of a text: groups, and angle brackets outside of groups.  `dash` says
that a `-` outside of groups is the character before. -/
structure Nesting where
  groups : ℕ
  angles : ℕ
  dash : Bool

namespace Nesting

def openings : List Char := ['(', '[', '\x7b']

def closings : List Char := [')', ']', '\x7d']

/-- The place behind one more character. -/
def step (place : Nesting) (c : Char) : Nesting :=
  if openings.contains c then ⟨place.groups + 1, place.angles, false⟩
  else if closings.contains c then ⟨place.groups - 1, place.angles, false⟩
  else if place.groups ≠ 0 then ⟨place.groups, place.angles, false⟩
  else if c = '<' then ⟨0, place.angles + 1, false⟩
  else if c = '>' then ⟨0, if place.dash then place.angles else place.angles - 1, false⟩
  else ⟨0, place.angles, c == '-'⟩

def after (place : Nesting) (text : List Char) : Nesting := text.foldl step place

variable {place : Nesting} {c : Char} {text : List Char}

@[simp]
theorem after_nil (place : Nesting) : place.after [] = place := rfl

theorem after_cons (place : Nesting) (c : Char) (text : List Char) :
    place.after (c :: text) = (place.step c).after text :=
  rfl

theorem after_append (place : Nesting) (text rest : List Char) :
    place.after (text ++ rest) = (place.after text).after rest :=
  List.foldl_append

theorem after_singleton (place : Nesting) (c : Char) : place.after [c] = place.step c := rfl

theorem step_opening (hc : c ∈ openings) :
    place.step c = ⟨place.groups + 1, place.angles, false⟩ := by
  rw [step, if_pos (List.contains_iff_mem.mpr hc)]

theorem step_closing (hc : c ∈ closings) :
    place.step c = ⟨place.groups - 1, place.angles, false⟩ := by
  have hdisjoint : ∀ c ∈ closings, c ∉ openings := by simp [closings, openings]
  rw [step, if_neg (by simpa using hdisjoint c hc), if_pos (List.contains_iff_mem.mpr hc)]

theorem step_of_notMem (hopening : c ∉ openings) (hclosing : c ∉ closings) :
    place.step c = if place.groups ≠ 0 then ⟨place.groups, place.angles, false⟩
      else if c = '<' then ⟨0, place.angles + 1, false⟩
      else if c = '>' then ⟨0, if place.dash then place.angles else place.angles - 1, false⟩
      else ⟨0, place.angles, c == '-'⟩ := by
  rw [step, if_neg (by simpa using hopening), if_neg (by simpa using hclosing)]

/-- Punctuation opens and closes no group. -/
theorem notMem_of_punctuation (hc : Lexeme.punctuation.contains c = true) :
    c ∉ openings ∧ c ∉ closings := by
  have hbrackets : (openings ++ closings).all (fun c => !Lexeme.punctuation.contains c) = true := by
    decide +kernel
  rw [← not_or, ← List.mem_append]
  intro hmem
  have hnot := List.all_eq_true.mp hbrackets c hmem
  rw [hc] at hnot
  cases hnot

theorem groups_step (hc : Lexeme.punctuation.contains c = true) (place : Nesting) :
    (place.step c).groups = place.groups := by
  obtain ⟨hopening, hclosing⟩ := notMem_of_punctuation hc
  rw [step_of_notMem hopening hclosing]
  split_ifs with hgroups
  · rfl
  all_goals exact (not_not.mp hgroups).symm

theorem step_inside (hc : Lexeme.punctuation.contains c = true) (groups angles : ℕ) (dash : Bool) :
    (Nesting.mk (groups + 1) angles dash).step c = ⟨groups + 1, angles, false⟩ := by
  obtain ⟨hopening, hclosing⟩ := notMem_of_punctuation hc
  rw [step_of_notMem hopening hclosing, if_pos (Nat.succ_ne_zero groups)]

theorem step_outside (hc : isPlainMark c = true) (angles : ℕ) (dash : Bool) :
    (Nesting.mk 0 angles dash).step c = ⟨0, angles, false⟩ := by
  rw [isPlainMark, Bool.and_eq_true] at hc
  obtain ⟨hopening, hclosing⟩ := notMem_of_punctuation hc.1
  have hangles : c ≠ '<' ∧ c ≠ '>' ∧ c ≠ '-' := by simpa using hc.2
  rw [step_of_notMem hopening hclosing, if_neg (by simp), if_neg hangles.1, if_neg hangles.2.1,
    beq_eq_false_iff_ne.mpr hangles.2.2]

/-- Characters that types are not put together with leave open what is open. -/
theorem after_text (htext : ∀ c ∈ text, c ∉ typeMarks) (place : Nesting) :
    place.after text = ⟨place.groups, place.angles, place.dash && text.isEmpty⟩ := by
  have hopenings : ∀ c ∈ openings, c ∈ typeMarks := by simp [openings, typeMarks]
  have hclosings : ∀ c ∈ closings, c ∈ typeMarks := by simp [closings, typeMarks]
  have hmarks : ∀ c ∈ ['<', '>', '-'], c ∈ typeMarks := by simp [typeMarks]
  induction text generalizing place with
  | nil => rw [after_nil, List.isEmpty_nil, Bool.and_true]
  | cons c text ih =>
      obtain ⟨hc, htext⟩ := List.forall_mem_cons.mp htext
      have hstep : place.step c = ⟨place.groups, place.angles, false⟩ := by
        rw [step_of_notMem (mt (hopenings c) hc) (mt (hclosings c) hc)]
        have hnotMem := mt (hmarks c) hc
        simp only [List.mem_cons, List.not_mem_nil, or_false, not_or] at hnotMem
        rw [if_neg hnotMem.1, if_neg hnotMem.2.1, beq_eq_false_iff_ne.mpr hnotMem.2.2]
        split_ifs with hgroups
        · rfl
        · rw [not_not.mp hgroups]
      rw [after_cons, hstep, ih htext, List.isEmpty_cons, Bool.and_false, Bool.false_and]

end Nesting

/-! ### Tokens -/

section Shown

variable {tokens rest content : List Token} {lead : List Char}

/-- What shows of a word or a literal: some characters that types are not put together with. -/
theorem visible_plainText {text : String} (htext : isPlainText text = true) :
    visible text.toList ≠ [] ∧ ∀ c ∈ visible text.toList, c ∉ typeMarks := by
  obtain ⟨⟨c, hmem, hc⟩, hmarks⟩ := isPlainText_iff.mp htext
  have hshown : c ∈ visible text.toList := List.mem_filter.mpr ⟨hmem, by rw [hc]; rfl⟩
  exact ⟨List.ne_nil_of_mem hshown, fun c hmem => hmarks c (List.mem_filter.mp hmem).1⟩

theorem shown_mark {mark : Char} (hmark : Lexeme.punctuation.contains mark = true)
    (joined : Bool) : shown [.punct mark joined] = [mark] := by
  have hvisible : Lexeme.punctuation.all (fun c => !isBlank c) = true := by decide +kernel
  have hnot := List.all_eq_true.mp hvisible mark (List.contains_iff_mem.mp hmark)
  exact shown_punct (by simpa using hnot) joined

theorem shown_group (delimiter : Delimiter) (content : List Token) :
    ∃ first ∈ Nesting.openings, ∃ last ∈ Nesting.closings,
      shown [.group delimiter content] = first :: (shown content ++ [last]) := by
  cases delimiter with
  | parenthesis =>
      refine ⟨'(', by decide, ')', by decide, ?_⟩
      rw [shown, Token.spaced, Token.spacedOne, visible_cons_of_not (by decide), visible_append]
      rfl
  | bracket =>
      refine ⟨'[', by decide, ']', by decide, ?_⟩
      rw [shown, Token.spaced, Token.spacedOne, visible_cons_of_not (by decide), visible_append]
      rfl
  | brace =>
      refine ⟨'\x7b', by decide, '\x7d', by decide, ?_⟩
      cases content with
      | nil => rfl
      | cons first rest =>
          rw [shown, Token.spaced, Token.spacedOne, visible_append, visible_append]
          rfl

/-- Plain tokens one by one: words and literals, of which something shows, marks and groups. -/
@[elab_as_elim]
theorem Plain.induction {motive : ∀ tokens, Plain tokens → Prop} (nil : motive [] plain_nil)
    (text : ∀ token rest (hrest : Plain rest) (hplain : Plain (token :: rest)),
      shown [token] ≠ [] → (∀ c ∈ shown [token], c ∉ typeMarks) →
      motive rest hrest → motive (token :: rest) hplain)
    (mark : ∀ mark joined rest (hrest : Plain rest) (hplain : Plain (.punct mark joined :: rest)),
      Lexeme.punctuation.contains mark = true →
      motive rest hrest → motive (.punct mark joined :: rest) hplain)
    (group : ∀ delimiter content rest (hcontent : Plain content) (hrest : Plain rest)
      (hplain : Plain (.group delimiter content :: rest)),
      motive content hcontent → motive rest hrest →
      motive (.group delimiter content :: rest) hplain) :
    ∀ {tokens : List Token} (hplain : Plain tokens), motive tokens hplain
  | [], _ => nil
  | .ident name line :: rest, hplain => by
      obtain ⟨hname, hrest⟩ := plain_ident_iff.mp hplain
      obtain ⟨hne, hmarks⟩ := visible_plainText hname
      exact text _ _ hrest hplain hne hmarks (Plain.induction nil text mark group hrest)
  | .literal value :: rest, hplain => by
      obtain ⟨hvalue, hrest⟩ := plain_literal_iff.mp hplain
      obtain ⟨hne, hmarks⟩ := visible_plainText hvalue
      exact text _ _ hrest hplain hne hmarks (Plain.induction nil text mark group hrest)
  | .punct c joined :: rest, hplain => by
      obtain ⟨hc, hrest⟩ := plain_punct_iff.mp hplain
      exact mark _ _ _ hrest hplain hc (Plain.induction nil text mark group hrest)
  | .group delimiter content :: rest, hplain => by
      obtain ⟨hcontent, hrest⟩ := plain_group_iff.mp hplain
      exact group _ _ _ hcontent hrest hplain (Plain.induction nil text mark group hcontent)
        (Plain.induction nil text mark group hrest)

/-- A beginning of two texts is one of the first, or goes into the second. -/
theorem prefix_append_cases {left right : List Char} (hlead : lead <+: left ++ right) :
    lead <+: left ∨ ∃ more, more <+: right ∧ lead = left ++ more := by
  rcases List.prefix_or_prefix_of_prefix hlead (List.prefix_append left right) with h | ⟨more, rfl⟩
  · exact .inl h
  · exact .inr ⟨more, (List.prefix_append_right_inj left).mp hlead, rfl⟩

theorem after_group (hcontent : ∀ groups angles,
      (Nesting.mk (groups + 1) angles false).after (shown content) = ⟨groups + 1, angles, false⟩)
    (delimiter : Delimiter) (place : Nesting) :
    place.after (shown [.group delimiter content]) = ⟨place.groups, place.angles, false⟩ := by
  obtain ⟨first, hfirst, last, hlast, hshown⟩ := shown_group delimiter content
  rw [hshown, Nesting.after_cons, Nesting.step_opening hfirst, Nesting.after_append, hcontent,
    Nesting.after_singleton, Nesting.step_closing hlast]
  rfl

/-- In a group, what is open in front of plain tokens is open behind them. -/
theorem Plain.after_inside (hplain : Plain tokens) (groups angles : ℕ) :
    (Nesting.mk (groups + 1) angles false).after (shown tokens) = ⟨groups + 1, angles, false⟩ := by
  induction hplain using Plain.induction generalizing groups angles with
  | nil => rfl
  | text token rest _ _ _ hmarks ih =>
      rw [shown_cons, Nesting.after_append, Nesting.after_text hmarks, Bool.false_and, ih]
  | mark mark joined rest _ _ hmark ih =>
      rw [shown_cons, Nesting.after_append, shown_mark hmark, Nesting.after_singleton,
        Nesting.step_inside hmark, ih]
  | group delimiter content rest _ _ _ ihContent ih =>
      rw [shown_cons, Nesting.after_append, after_group ihContent]
      exact ih groups angles

theorem prefix_group_cases {delimiter : Delimiter} (hcontent : ∀ lead, lead <+: shown content →
      ∀ groups angles, groups < ((Nesting.mk (groups + 1) angles false).after lead).groups)
    (hlead : lead <+: shown [.group delimiter content]) (place : Nesting) :
    lead = [] ∨ lead = shown [.group delimiter content] ∨
      place.groups < (place.after lead).groups := by
  obtain ⟨first, hfirst, last, hlast, hshown⟩ := shown_group delimiter content
  rw [hshown] at hlead ⊢
  rcases List.prefix_cons_iff.mp hlead with rfl | ⟨more, rfl, hmore⟩
  · exact .inl rfl
  · rcases List.prefix_concat_iff.mp hmore with rfl | hmore
    · exact .inr (.inl rfl)
    · rw [Nesting.after_cons, Nesting.step_opening hfirst]
      exact .inr (.inr (hcontent more hmore _ _))

/-- In a group, more is open at every place among plain tokens than outside. -/
theorem Plain.inside_prefix (hplain : Plain tokens) (lead : List Char)
    (hlead : lead <+: shown tokens) (groups angles : ℕ) :
    groups < ((Nesting.mk (groups + 1) angles false).after lead).groups := by
  induction hplain using Plain.induction generalizing lead groups angles with
  | nil =>
      rw [List.prefix_nil.mp hlead]
      exact groups.lt_succ_self
  | text token rest _ _ _ hmarks ih =>
      rw [shown_cons] at hlead
      rcases prefix_append_cases hlead with hlead | ⟨more, hmore, rfl⟩
      · rw [Nesting.after_text fun c hmem => hmarks c (hlead.subset hmem)]
        exact groups.lt_succ_self
      · rw [Nesting.after_append, Nesting.after_text hmarks]
        exact ih more hmore groups angles
  | mark mark joined rest _ _ hmark ih =>
      rw [shown_cons, shown_mark hmark, List.singleton_append] at hlead
      rcases List.prefix_cons_iff.mp hlead with rfl | ⟨more, rfl, hmore⟩
      · exact groups.lt_succ_self
      · rw [Nesting.after_cons, Nesting.step_inside hmark]
        exact ih more hmore groups angles
  | group delimiter content rest hcontent _ _ ihContent ih =>
      rw [shown_cons] at hlead
      rcases prefix_append_cases hlead with hlead | ⟨more, hmore, rfl⟩
      · rcases prefix_group_cases ihContent hlead ⟨groups + 1, angles, false⟩ with
          rfl | rfl | hdeeper
        · exact groups.lt_succ_self
        · rw [after_group hcontent.after_inside]
          exact groups.lt_succ_self
        · exact groups.lt_succ_self.trans hdeeper
      · rw [Nesting.after_append, after_group hcontent.after_inside]
        exact ih more hmore groups angles

/-! ### Colons outside of groups -/

/-- Tokens that show a colon first begin with one. -/
theorem Plain.colon_cons {text : List Char} (hplain : Plain tokens)
    (hshown : shown tokens = ':' :: text) :
    ∃ joined rest, tokens = .punct ':' joined :: rest ∧ shown rest = text := by
  induction hplain using Plain.induction with
  | nil => cases hshown
  | text token rest _ _ hne hmarks _ =>
      obtain ⟨c, more, hmore⟩ := List.exists_cons_of_ne_nil hne
      rw [shown_cons, hmore, List.cons_append, List.cons.injEq] at hshown
      rw [hmore, hshown.1] at hmarks
      exact absurd (by simp [typeMarks]) (hmarks ':' List.mem_cons_self)
  | mark mark joined rest _ _ hmark _ =>
      rw [shown_cons, shown_mark hmark, List.singleton_append, List.cons.injEq] at hshown
      exact ⟨joined, rest, by rw [hshown.1], hshown.2⟩
  | group delimiter content rest _ _ _ _ _ =>
      obtain ⟨first, hfirst, last, hlast, hgroup⟩ := shown_group delimiter content
      rw [shown_cons, hgroup, List.cons_append, List.cons.injEq] at hshown
      rw [hshown.1] at hfirst
      exact absurd hfirst (by simp [Nesting.openings])

/-- Of any plain tokens something shows. -/
theorem Plain.shown_ne_nil (hplain : Plain tokens) (hne : tokens ≠ []) : shown tokens ≠ [] := by
  induction hplain using Plain.induction with
  | nil => exact absurd rfl hne
  | text token rest _ _ hshown _ _ =>
      rw [shown_cons]
      exact List.append_ne_nil_of_left_ne_nil hshown _
  | mark mark joined rest _ _ hmark _ =>
      rw [shown_cons, shown_mark hmark]
      exact List.cons_ne_nil _ _
  | group delimiter content rest _ _ _ _ _ =>
      obtain ⟨first, -, last, -, hgroup⟩ := shown_group delimiter content
      rw [shown_cons, hgroup]
      exact List.cons_ne_nil _ _

/-- A cut in two texts is behind the first, when none of its colons is where the cut is. -/
theorem append_eq_append_colon {left right text : List Char}
    (heq : left ++ right = lead ++ ':' :: text) (hcolon : ∀ more, left ≠ lead ++ ':' :: more) :
    ∃ more, lead = left ++ more ∧ right = more ++ ':' :: text := by
  rcases List.append_eq_append_iff.mp heq with hbehind | ⟨more, hleft, htext⟩
  · exact hbehind
  · cases more with
    | nil => exact ⟨[], by rw [hleft, List.append_nil, List.append_nil], htext.symm⟩
    | cons c more =>
        cases htext
        exact absurd hleft (hcolon more)

theorem groups_pos_of_group (hcontent : Plain content) {delimiter : Delimiter} {text : List Char}
    (heq : shown [.group delimiter content] = lead ++ ':' :: text) (place : Nesting) :
    0 < (place.after lead).groups := by
  rcases prefix_group_cases hcontent.inside_prefix ⟨_, heq.symm⟩ place with rfl | rfl | hdeeper
  · obtain ⟨first, hfirst, last, hlast, hshown⟩ := shown_group delimiter content
    rw [hshown] at heq
    cases heq
    exact absurd hfirst (by simp [Nesting.openings])
  · exact absurd heq (by simp)
  · exact place.groups.zero_le.trans_lt hdeeper

/-- A `::` stands between tokens that show one text and tokens that show another. -/
def IsCut (tokens : List Token) (lead text : List Char) : Prop :=
  ∃ outer first second inner, tokens = outer ++ .punct ':' first :: .punct ':' second :: inner ∧
    shown outer = lead ∧ shown inner = text

theorem IsCut.cons {text : List Char} (hcut : IsCut rest lead text) (token : Token) :
    IsCut (token :: rest) (shown [token] ++ lead) text := by
  obtain ⟨outer, first, second, inner, rfl, rfl, rfl⟩ := hcut
  exact ⟨token :: outer, first, second, inner, rfl, shown_cons token outer, rfl⟩

/-- A `::` that shows outside of groups is one of the tokens. -/
theorem Plain.isCut {text : List Char} (hplain : Plain tokens) {place : Nesting}
    (hplace : place.groups = 0) (hshown : shown tokens = lead ++ ':' :: ':' :: text)
    (hlead : (place.after lead).groups = 0) : IsCut tokens lead text := by
  induction hplain using Plain.induction generalizing place lead with
  | nil => exact absurd hshown.symm (by simp)
  | text token rest _ _ _ hmarks ih =>
      rw [shown_cons] at hshown
      obtain ⟨more, rfl, hrest⟩ := append_eq_append_colon hshown fun more heq =>
        hmarks ':' (heq ▸ List.mem_append_right lead List.mem_cons_self) (by simp [typeMarks])
      have hbehind : (place.after (shown [token])).groups = 0 := by
        rw [Nesting.after_text hmarks]
        exact hplace
      rw [Nesting.after_append] at hlead
      exact (ih hbehind hrest hlead).cons token
  | mark mark joined rest hplain _ hmark ih =>
      rw [shown_cons, shown_mark hmark] at hshown
      cases lead with
      | nil =>
          obtain ⟨rfl, hrest⟩ := List.cons_eq_cons.mp hshown
          obtain ⟨second, inner, rfl, hinner⟩ := hplain.colon_cons hrest
          exact ⟨[], joined, second, inner, rfl, rfl, hinner⟩
      | cons c lead =>
          obtain ⟨rfl, hrest⟩ := List.cons_eq_cons.mp hshown
          have hcut := ih ((Nesting.groups_step hmark place).trans hplace) hrest hlead
          have hcons := hcut.cons (.punct mark joined)
          rwa [shown_mark hmark] at hcons
  | group delimiter content rest hcontent _ _ _ ih =>
      rw [shown_cons] at hshown
      obtain ⟨more, rfl, hrest⟩ := append_eq_append_colon hshown fun more heq =>
        (groups_pos_of_group hcontent heq place).ne' hlead
      have hbehind : (place.after (shown [.group delimiter content])).groups = 0 := by
        rw [after_group hcontent.after_inside]
        exact hplace
      rw [Nesting.after_append] at hlead
      exact (ih hbehind hrest hlead).cons _

/-! ### Balanced tokens -/

namespace Nesting

/-- Between tokens that stand in no group and in no angle brackets. -/
def outside : Nesting := ⟨0, 0, false⟩

/-- Nothing is open. -/
def IsOutside (place : Nesting) : Prop := place.groups = 0 ∧ place.angles = 0

theorem not_isOutside (groups angles : ℕ) (dash : Bool) :
    ¬(Nesting.mk groups (angles + 1) dash).IsOutside :=
  fun houtside => Nat.succ_ne_zero _ houtside.2

theorem not_isOutside_text {text lead : List Char} (hmarks : ∀ c ∈ text, c ∉ typeMarks)
    (hlead : lead <+: text) (angles : ℕ) (dash : Bool) :
    ¬((Nesting.mk 0 (angles + 1) dash).after lead).IsOutside := by
  rw [after_text fun c hmem => hmarks c (hlead.subset hmem)]
  exact not_isOutside _ _ _

end Nesting

/-- What is open in front of balanced tokens is open behind them. -/
theorem Balanced.after_shown (hbalanced : Balanced tokens) (angles : ℕ) :
    (Nesting.mk 0 angles false).after (shown tokens) = ⟨0, angles, false⟩ := by
  have hminus : Lexeme.punctuation.contains '-' = true := by decide
  have hopen : Lexeme.punctuation.contains '<' = true := by decide
  have hclose : Lexeme.punctuation.contains '>' = true := by decide
  induction hbalanced generalizing angles with
  | nil => rfl
  | append _ _ ihLeft ihRight => rw [shown_append, Nesting.after_append, ihLeft, ihRight]
  | word hname => exact Nesting.after_text (visible_plainText hname).2 _
  | literal htext => exact Nesting.after_text (visible_plainText htext).2 _
  | mark hmark =>
      rw [shown_mark (Bool.and_eq_true_iff.mp hmark).1]
      exact Nesting.step_outside hmark angles false
  | group hcontent => exact after_group hcontent.after_inside _ _
  | arrow =>
      rw [shown_cons, shown_mark hminus, shown_mark hclose]
      rfl
  | negative htext =>
      obtain ⟨hne, hmarks⟩ := visible_plainText htext
      rw [shown_cons, shown_mark hminus, List.singleton_append, Nesting.after_cons]
      refine (Nesting.after_text hmarks _).trans ?_
      rw [List.isEmpty_eq_false_iff.mpr hne, Bool.and_false]
      rfl
  | angles _ ih =>
      rw [shown_cons, shown_append, shown_mark hopen, shown_mark hclose, List.singleton_append,
        Nesting.after_cons, Nesting.after_append]
      have hstep : (Nesting.mk 0 angles false).step '<' = ⟨0, angles + 1, false⟩ := rfl
      rw [hstep, ih]
      rfl

/-- Within angle brackets, a bracket is open at every place among balanced tokens. -/
theorem Balanced.within_prefix (hbalanced : Balanced tokens) (lead : List Char)
    (hlead : lead <+: shown tokens) (angles : ℕ) :
    ¬((Nesting.mk 0 (angles + 1) false).after lead).IsOutside := by
  have hminus : Lexeme.punctuation.contains '-' = true := by decide
  have hopen : Lexeme.punctuation.contains '<' = true := by decide
  have hclose : Lexeme.punctuation.contains '>' = true := by decide
  induction hbalanced generalizing lead angles with
  | nil =>
      rw [List.prefix_nil.mp hlead]
      exact Nesting.not_isOutside _ _ _
  | append hleft _ ihLeft ihRight =>
      rw [shown_append] at hlead
      rcases prefix_append_cases hlead with hlead | ⟨more, hmore, rfl⟩
      · exact ihLeft lead hlead angles
      · rw [Nesting.after_append, hleft.after_shown]
        exact ihRight more hmore angles
  | word hname => exact Nesting.not_isOutside_text (visible_plainText hname).2 hlead _ _
  | literal htext => exact Nesting.not_isOutside_text (visible_plainText htext).2 hlead _ _
  | mark hmark =>
      rw [shown_mark (Bool.and_eq_true_iff.mp hmark).1] at hlead
      rcases List.prefix_cons_iff.mp hlead with rfl | ⟨more, rfl, hmore⟩
      · exact Nesting.not_isOutside _ _ _
      · rw [List.prefix_nil.mp hmore, Nesting.after_singleton, Nesting.step_outside hmark]
        exact Nesting.not_isOutside _ _ _
  | group hcontent =>
      rcases prefix_group_cases hcontent.inside_prefix hlead ⟨0, angles + 1, false⟩ with
        rfl | rfl | hdeeper
      · exact Nesting.not_isOutside _ _ _
      · rw [after_group hcontent.after_inside]
        exact Nesting.not_isOutside _ _ _
      · exact fun houtside => hdeeper.ne' houtside.1
  | arrow =>
      rw [shown_cons, shown_mark hminus, shown_mark hclose, List.singleton_append] at hlead
      rcases List.prefix_cons_iff.mp hlead with rfl | ⟨more, rfl, hmore⟩
      · exact Nesting.not_isOutside _ _ _
      · rcases List.prefix_cons_iff.mp hmore with rfl | ⟨last, rfl, hlast⟩
        · exact Nesting.not_isOutside _ _ _
        · rw [List.prefix_nil.mp hlast]
          exact Nesting.not_isOutside _ _ _
  | negative htext =>
      rw [shown_cons, shown_mark hminus] at hlead
      rcases List.prefix_cons_iff.mp hlead with rfl | ⟨more, rfl, hmore⟩
      · exact Nesting.not_isOutside _ _ _
      · exact Nesting.not_isOutside_text (visible_plainText htext).2 hmore _ true
  | angles hcontent ih =>
      rw [shown_cons, shown_append, shown_mark hopen, shown_mark hclose] at hlead
      rcases List.prefix_cons_iff.mp hlead with rfl | ⟨more, rfl, hmore⟩
      · exact Nesting.not_isOutside _ _ _
      · have hstep : (Nesting.mk 0 (angles + 1) false).step '<' = ⟨0, angles + 2, false⟩ := rfl
        rw [Nesting.after_cons, hstep]
        rcases List.prefix_concat_iff.mp hmore with rfl | hmore
        · rw [Nesting.after_append, hcontent.after_shown]
          exact Nesting.not_isOutside _ _ _
        · exact ih more hmore (angles + 1)

end Shown

end MarkedRoutes.Source
