import MarkedRoutes.Proofs.Source.PlainPath

/-!
# Canonical texts

Squeezing blanks out of a text keeps every other character, and it does not look across a colon.
So the canonical text of tokens falls apart where a `::` stands between them, and what shows of it
is what shows of the tokens one by one.
-/

namespace MarkedRoutes.Source

open MarkedRoutes.Text

def visible (text : List Char) : List Char := text.filter fun c => !isBlank c

def shown (tokens : List Token) : List Char := visible (Token.spaced tokens)

def canonicalChars (tokens : List Token) : List Char := squeeze none (Token.spaced tokens)

theorem canonicalText_eq (tokens : List Token) :
    canonicalText tokens = String.ofList (canonicalChars tokens) :=
  rfl

section Squeezing

variable {previous : Option Char} {text rest : List Char}

theorem visible_append (text rest : List Char) :
    visible (text ++ rest) = visible text ++ visible rest :=
  List.filter_append text rest

theorem visible_cons_of_not {c : Char} (hc : isBlank c = false) (text : List Char) :
    visible (c :: text) = c :: visible text :=
  List.filter_cons_of_pos (by rw [hc]; rfl)

theorem squeeze_cons_of_blank {c : Char} (hc : isBlank c = true) (previous : Option Char)
    (rest : List Char) :
    squeeze previous (c :: rest) = squeeze previous rest ∨
      squeeze previous (c :: rest) = ' ' :: squeeze (some ' ') rest := by
  rw [squeeze_cons, if_pos hc]
  split
  · split_ifs
    · exact .inr rfl
    · exact .inl rfl
  · exact .inl rfl

/-- Squeezing drops and adds nothing but blanks. -/
theorem visible_squeeze (previous : Option Char) (text : List Char) :
    visible (squeeze previous text) = visible text := by
  have hspace : isBlank ' ' = true := by decide
  induction text generalizing previous with
  | nil => rfl
  | cons c text ih =>
      cases hc : isBlank c with
      | true =>
          have hdropped : visible (c :: text) = visible text :=
            List.filter_cons_of_neg (by simp [hc])
          rcases squeeze_cons_of_blank hc previous text with heq | heq <;> rw [heq, hdropped]
          · exact ih previous
          · rw [visible, List.filter_cons_of_neg (by simp [hspace])]
            exact ih _
      | false => rw [squeeze_cons_of_not hc, visible_cons_of_not hc, visible_cons_of_not hc, ih]

theorem find?_blanks (hrest : ∀ c ∈ rest, isBlank c = true) :
    (rest.find? fun c => !isBlank c) = none :=
  List.find?_eq_none.mpr fun c hmem => by simp [hrest c hmem]

theorem squeeze_blanks (hrest : ∀ c ∈ rest, isBlank c = true) (previous : Option Char) :
    squeeze previous rest = [] := by
  induction rest with
  | nil => rfl
  | cons c rest ih =>
      obtain ⟨hc, hrest⟩ := List.forall_mem_cons.mp hrest
      rw [squeeze_cons, if_pos hc, find?_blanks hrest]
      cases previous <;> exact ih hrest

/-- Nothing is left of blanks at the end. -/
theorem squeeze_append_blanks (hrest : ∀ c ∈ rest, isBlank c = true) (previous : Option Char)
    (text : List Char) : squeeze previous (text ++ rest) = squeeze previous text := by
  induction text generalizing previous with
  | nil => exact squeeze_blanks hrest previous
  | cons c text ih =>
      rw [List.cons_append, squeeze_cons, squeeze_cons, List.find?_append, find?_blanks hrest,
        Option.or_none]
      split_ifs
      · split
        · split_ifs
          · rw [ih]
          · exact ih _
        · exact ih _
      · rw [ih]

/-- Nothing is left of blanks that no word character stands before. -/
theorem squeeze_blanks_append (htext : ∀ c ∈ text, isBlank c = true)
    (hprevious : ∀ before ∈ previous, isWordChar before = false) (rest : List Char) :
    squeeze previous (text ++ rest) = squeeze previous rest := by
  induction text with
  | nil => rfl
  | cons c text ih =>
      obtain ⟨hc, htext⟩ := List.forall_mem_cons.mp htext
      rw [List.cons_append, squeeze_cons, if_pos hc]
      split
      · next before after hafter =>
        rw [hprevious before rfl, Bool.false_and, if_neg Bool.false_ne_true]
        exact ih htext
      · exact ih htext

/-- Where no word character stands before, a text is squeezed as at its beginning. -/
theorem squeeze_of_not_isWordChar {before : Char} (hbefore : isWordChar before = false)
    (text : List Char) : squeeze (some before) text = squeeze none text := by
  induction text with
  | nil => rfl
  | cons c text ih =>
      rw [squeeze_cons, squeeze_cons]
      split_ifs
      · split
        · next heq hafter =>
          cases heq
          rw [hbefore, Bool.false_and, if_neg Bool.false_ne_true]
          exact ih
        · exact ih
      · rfl

/-- Squeezing does not look across a colon. -/
theorem squeeze_colon (previous : Option Char) (text rest : List Char) :
    squeeze previous (text ++ ':' :: rest) = squeeze previous text ++ ':' :: squeeze none rest := by
  have hcolon : isBlank ':' = false := by decide
  have hword : isWordChar ':' = false := by decide
  induction text generalizing previous with
  | nil =>
      rw [List.nil_append, squeeze_cons_of_not hcolon, squeeze_of_not_isWordChar hword]
      rfl
  | cons c text ih =>
      rw [List.cons_append, squeeze_cons, squeeze_cons, List.find?_append,
        List.find?_cons_of_pos (by rw [hcolon]; rfl)]
      split_ifs
      · cases hafter : text.find? fun c => !isBlank c with
        | some after =>
            rw [Option.some_or]
            cases previous with
            | none => exact ih none
            | some before =>
                dsimp only
                split_ifs
                · rw [ih, List.cons_append]
                · exact ih _
        | none =>
            rw [Option.none_or]
            cases previous with
            | none => exact ih none
            | some before =>
                dsimp only
                rw [hword, Bool.and_false, if_neg Bool.false_ne_true]
                exact ih _
      · rw [ih, List.cons_append]

/-- Texts that show the same in front of a colon are the same. -/
theorem append_colon_inj {left right : List Char} (hvisible : visible left = visible right)
    (heq : left ++ ':' :: text = right ++ ':' :: rest) : left = right ∧ text = rest := by
  have hcolon (tail : List Char) : visible (':' :: tail) ≠ [] := by
    rw [visible_cons_of_not (by decide)]
    exact List.cons_ne_nil _ _
  induction left generalizing right with
  | nil =>
      cases right with
      | nil => exact ⟨rfl, List.tail_eq_of_cons_eq heq⟩
      | cons c right =>
          cases heq
          exact absurd hvisible.symm (hcolon right)
  | cons c left ih =>
      cases right with
      | nil =>
          cases heq
          exact absurd hvisible (hcolon left)
      | cons d right =>
          obtain ⟨rfl, htail⟩ := List.cons_eq_cons.mp heq
          have hvisible : visible left = visible right := by
            rw [visible, visible, List.filter_cons, List.filter_cons] at hvisible
            split_ifs at hvisible
            · exact List.tail_eq_of_cons_eq hvisible
            · exact hvisible
          obtain ⟨rfl, hrest⟩ := ih hvisible htail
          exact ⟨rfl, hrest⟩

end Squeezing

/-! ### Tokens side by side -/

section Tokens

variable {left right : List Token}

/-- Nothing but blanks stands between the spaced texts of tokens. -/
theorem spaced_append (left right : List Token) : ∃ between, (∀ c ∈ between, isBlank c = true) ∧
    Token.spaced (left ++ right) = Token.spaced left ++ (between ++ Token.spaced right) := by
  have hspace : isBlank ' ' = true := by decide
  induction left with
  | nil => exact ⟨[], nofun, rfl⟩
  | cons first left ih =>
      cases left with
      | nil =>
          cases right with
          | nil => exact ⟨[], nofun, (List.append_nil _).symm⟩
          | cons second right =>
              refine ⟨if first.isJoined then [] else [' '], ?_, ?_⟩
              · split_ifs
                · exact nofun
                · exact fun c hmem => List.mem_singleton.mp hmem ▸ hspace
              · rw [List.singleton_append, Token.spaced, Token.spaced]
      | cons second left =>
          obtain ⟨between, hbetween, heq⟩ := ih
          refine ⟨between, hbetween, ?_⟩
          rw [List.cons_append, List.cons_append, Token.spaced, ← List.cons_append, heq,
            Token.spaced]
          simp only [List.append_assoc]

@[simp]
theorem shown_nil : shown [] = [] := rfl

theorem shown_append (left right : List Token) :
    shown (left ++ right) = shown left ++ shown right := by
  obtain ⟨between, hbetween, heq⟩ := spaced_append left right
  have hnil : visible between = [] :=
    List.filter_eq_nil_iff.mpr fun c hmem => by simp [hbetween c hmem]
  rw [shown, heq, visible_append, visible_append, hnil]
  rfl

theorem shown_cons (first : Token) (rest : List Token) :
    shown (first :: rest) = shown [first] ++ shown rest :=
  shown_append [first] rest

theorem shown_punct {mark : Char} (hmark : isBlank mark = false) (joined : Bool) :
    shown [.punct mark joined] = [mark] :=
  visible_cons_of_not hmark []

theorem visible_canonicalChars (tokens : List Token) :
    visible (canonicalChars tokens) = shown tokens :=
  visible_squeeze none _

theorem canonicalChars_colon (left right : List Token) (joined : Bool) :
    canonicalChars (left ++ .punct ':' joined :: right) =
      canonicalChars left ++ ':' :: canonicalChars right := by
  obtain ⟨before, hbefore, hleft⟩ := spaced_append left (.punct ':' joined :: right)
  obtain ⟨after, hafter, hright⟩ := spaced_append [.punct ':' joined] right
  have hcolon : Token.spaced [.punct ':' joined] = [':'] := rfl
  rw [List.singleton_append, hcolon, List.singleton_append] at hright
  have hprevious : ∀ before ∈ (none : Option Char), isWordChar before = false :=
    fun before hmem => absurd hmem (Option.not_mem_none before)
  rw [canonicalChars, hleft, hright, ← List.append_assoc, squeeze_colon,
    squeeze_append_blanks hbefore, squeeze_blanks_append hafter hprevious]
  rfl

/-- The canonical text falls apart at a `::`. -/
theorem canonicalChars_colons (left right : List Token) (first second : Bool) :
    canonicalChars (left ++ .punct ':' first :: .punct ':' second :: right) =
      canonicalChars left ++ ':' :: ':' :: canonicalChars right := by
  rw [canonicalChars_colon, ← List.nil_append (.punct ':' second :: right), canonicalChars_colon]
  rfl

end Tokens

end MarkedRoutes.Source
