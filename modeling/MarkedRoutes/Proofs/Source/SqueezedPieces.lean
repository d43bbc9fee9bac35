import MarkedRoutes.Proofs.Source.CanonicalText
import MarkedRoutes.Proofs.Source.TokenPieces

/-!
# Canonical texts of pieces

The spaced text of tokens has their pieces one after the other, with blanks between them.  Squeezed,
it keeps the pieces as they are, with a space exactly where word characters would meet.
-/

namespace MarkedRoutes.Source

open MarkedRoutes.Text Literal

/-! ### Squeezed texts of pieces -/

/-- A text that is all there is in its canonical text. -/
structure IsKept (piece : List Char) : Prop where
  ne_nil : piece ≠ []
  squeeze_eq : squeeze none piece = piece

/-- Whether word characters meet where a text stands behind a piece. -/
def wordsMeet (piece behind : List Char) : Bool :=
  piece.getLast?.any isWordChar && behind.head?.any isWordChar

/-- The space between a piece and the text behind it in a canonical text: one where word
characters would meet, but none between the apostrophe and the name of a lifetime. -/
def parting (piece behind : List Char) : List Char :=
  if wordsMeet piece behind && piece != ['\''] then [' '] else []

/-- The canonical text of pieces. -/
def weave : List (List Char) → List Char
  | [] => []
  | piece :: pieces => piece ++ (parting piece (weave pieces) ++ weave pieces)

/-- A text in which the pieces stand one after the other with blanks between them.  Where word
characters meet, only the apostrophe of a lifetime has no blank behind it. -/
inductive Spread : List (List Char) → List Char → Prop
  | nil : Spread [] []
  | cons {piece gap text : List Char} {pieces : List (List Char)}
      (hgap : ∀ c ∈ gap, isBlank c = true)
      (hmeet : wordsMeet piece text = true → (gap = [] ↔ piece = ['\'']))
      (hspread : Spread pieces text) : Spread (piece :: pieces) (piece ++ (gap ++ text))

theorem length_squeeze_le (previous : Option Char) (text : List Char) :
    (squeeze previous text).length ≤ text.length := by
  induction text generalizing previous with
  | nil => exact Nat.le_refl 0
  | cons c text ih =>
      have hlong (previous : Option Char) :
          (squeeze previous text).length ≤ (c :: text).length :=
        (ih previous).trans (Nat.le_succ _)
      rw [squeeze_cons]
      split_ifs
      · split
        · split_ifs
          · exact Nat.succ_le_succ (ih _)
          · exact hlong _
        · exact hlong _
      · exact Nat.succ_le_succ (ih _)

section Kept

variable {piece : List Char} (hkept : IsKept piece)
include hkept

theorem IsKept.not_isBlank_head {c : Char} (hc : c ∈ piece.head?) : isBlank c = false := by
  obtain ⟨rest, rfl⟩ := List.head?_eq_some_iff.mp hc
  rw [Bool.eq_false_iff]
  intro hblank
  have hlength := length_squeeze_le none rest
  have hsqueeze := hkept.squeeze_eq
  rw [squeeze_cons, if_pos hblank] at hsqueeze
  change squeeze none rest = c :: rest at hsqueeze
  rw [hsqueeze, List.length_cons] at hlength
  exact Nat.not_succ_le_self _ hlength

theorem IsKept.not_isBlank_last {c : Char} (hc : c ∈ piece.getLast?) : isBlank c = false := by
  obtain ⟨lead, rfl⟩ := List.getLast?_eq_some_iff.mp hc
  rw [Bool.eq_false_iff]
  intro hblank
  have hlength := length_squeeze_le none lead
  have hblanks : ∀ d ∈ [c], isBlank d = true := List.forall_mem_singleton.mpr hblank
  rw [← squeeze_append_blanks hblanks, hkept.squeeze_eq, List.length_append] at hlength
  exact Nat.not_succ_le_self _ hlength

end Kept

/-- A text that ends with no blank is squeezed on its own. -/
theorem squeeze_append_of_last {text : List Char} {last : Char} (previous : Option Char)
    (hlast : text.getLast? = some last) (hblank : isBlank last = false) (rest : List Char) :
    squeeze previous (text ++ rest) = squeeze previous text ++ squeeze (some last) rest := by
  induction text generalizing previous with
  | nil => cases hlast
  | cons c text ih =>
      cases text with
      | nil =>
          obtain rfl : c = last := Option.some.inj hlast
          rw [List.singleton_append, squeeze_cons_of_not hblank, squeeze_cons_of_not hblank]
          rfl
      | cons d text =>
          rw [List.getLast?_cons_cons] at hlast
          have hfind : ((d :: text).find? fun c => !isBlank c) ≠ none := by
            rw [ne_eq, List.find?_eq_none]
            intro hblanks
            exact hblanks last (List.mem_of_getLast? hlast) (by rw [hblank]; rfl)
          obtain ⟨after, hafter⟩ := Option.ne_none_iff_exists'.mp hfind
          rw [List.cons_append, squeeze_cons, squeeze_cons, List.find?_append, hafter,
            Option.some_or]
          split_ifs
          · split
            · split_ifs
              · rw [ih _ hlast, List.cons_append]
              · exact ih _ hlast
            · exact ih _ hlast
          · rw [ih _ hlast, List.cons_append]

theorem IsKept.squeeze_append {piece : List Char} (hkept : IsKept piece) (rest : List Char) :
    ∃ last, piece.getLast? = some last ∧
      squeeze none (piece ++ rest) = piece ++ squeeze (some last) rest := by
  obtain ⟨last, hlast⟩ :=
    Option.ne_none_iff_exists'.mp (mt List.getLast?_eq_none_iff.mp hkept.ne_nil)
  refine ⟨last, hlast, ?_⟩
  rw [squeeze_append_of_last none hlast (hkept.not_isBlank_last hlast), hkept.squeeze_eq]

section Gap

variable {gap text : List Char} (hgap : ∀ c ∈ gap, isBlank c = true)
  (htext : ∀ c ∈ text.head?, isBlank c = false)
include htext

theorem squeeze_of_head (previous : Option Char) : squeeze previous text = squeeze none text := by
  cases text with
  | nil => rfl
  | cons c text => rw [squeeze_cons_of_not (htext c rfl), squeeze_cons_of_not (htext c rfl)]

include hgap

theorem find?_gap : ((gap ++ text).find? fun c => !isBlank c) = text.head? := by
  rw [List.find?_append, find?_blanks hgap, Option.none_or]
  cases text with
  | nil => rfl
  | cons c text => exact List.find?_cons_of_pos (by rw [htext c rfl]; rfl)

/-- Nothing is left of blanks where no word characters meet. -/
theorem squeeze_gap_of_not {last : Char}
    (hmeet : (isWordChar last && text.head?.any isWordChar) = false) :
    squeeze (some last) (gap ++ text) = squeeze none text := by
  induction gap with
  | nil => exact squeeze_of_head htext _
  | cons c gap ih =>
      obtain ⟨hc, hgap⟩ := List.forall_mem_cons.mp hgap
      rw [List.cons_append, squeeze_cons, if_pos hc, find?_gap hgap htext]
      split
      · next before after heq hafter =>
        obtain rfl := Option.some.inj heq
        rw [hafter, Option.any_some] at hmeet
        rw [hmeet, if_neg Bool.false_ne_true]
        exact ih hgap
      · exact ih hgap

/-- A space is left of blanks where word characters meet. -/
theorem squeeze_gap (hne : gap ≠ []) {last : Char}
    (hmeet : (isWordChar last && text.head?.any isWordChar) = true) :
    squeeze (some last) (gap ++ text) = ' ' :: squeeze none text := by
  obtain ⟨c, gap, rfl⟩ := List.exists_cons_of_ne_nil hne
  obtain ⟨hc, hgap⟩ := List.forall_mem_cons.mp hgap
  have hspace : ∀ before ∈ some ' ', isWordChar before = false := by
    intro before hbefore
    obtain rfl := Option.some.inj hbefore
    decide
  cases hhead : text.head? with
  | none =>
      rw [hhead, Option.any_none, Bool.and_false] at hmeet
      cases hmeet
  | some after =>
      rw [hhead, Option.any_some] at hmeet
      rw [List.cons_append, squeeze_cons, if_pos hc, find?_gap hgap htext, hhead]
      dsimp only
      rw [if_pos hmeet, squeeze_blanks_append hgap hspace, squeeze_of_head htext]

end Gap

section Spread

variable {pieces : List (List Char)} {text : List Char}

theorem Spread.not_isBlank_head (hspread : Spread pieces text)
    (hkept : ∀ piece ∈ pieces, IsKept piece) : ∀ c ∈ text.head?, isBlank c = false := by
  cases hspread with
  | nil => exact fun _ hc => nomatch hc
  | @cons piece gap text pieces _ _ _ =>
      have hpiece := hkept piece List.mem_cons_self
      intro c hc
      rw [List.head?_append_of_ne_nil _ hpiece.ne_nil] at hc
      exact hpiece.not_isBlank_head hc

theorem wordsMeet_eq {piece : List Char} {last : Char} (hlast : piece.getLast? = some last)
    (behind : List Char) :
    wordsMeet piece behind = (isWordChar last && behind.head?.any isWordChar) := by
  rw [wordsMeet, hlast, Option.any_some]

theorem head?_squeeze (htext : ∀ c ∈ text.head?, isBlank c = false) :
    (squeeze none text).head? = text.head? := by
  cases text with
  | nil => rfl
  | cons c text => rw [squeeze_cons_of_not (htext c rfl), List.head?_cons, List.head?_cons]

/-- Squeezed, a text of pieces is their canonical text. -/
theorem Spread.squeeze_eq (hspread : Spread pieces text)
    (hkept : ∀ piece ∈ pieces, IsKept piece) : squeeze none text = weave pieces := by
  induction hspread with
  | nil => rfl
  | @cons piece gap text pieces hgap hmeet hspread ih =>
      obtain ⟨hpiece, hkept⟩ := List.forall_mem_cons.mp hkept
      obtain ⟨last, hlast, hsqueeze⟩ := hpiece.squeeze_append (gap ++ text)
      have htext := hspread.not_isBlank_head hkept
      have hmeets : wordsMeet piece (weave pieces) = wordsMeet piece text := by
        rw [wordsMeet, wordsMeet, ← ih hkept, head?_squeeze htext]
      rw [hsqueeze, weave, parting, hmeets, ← ih hkept]
      cases hwords : wordsMeet piece text with
      | false =>
          rw [wordsMeet_eq hlast] at hwords
          rw [squeeze_gap_of_not hgap htext hwords]
          rfl
      | true =>
          have hempty := hmeet hwords
          rw [wordsMeet_eq hlast] at hwords
          by_cases hpiece : piece = ['\'']
          · rw [hempty.mpr hpiece, List.nil_append, squeeze_of_head htext, hpiece]
            rfl
          · have hne : gap ≠ [] := fun hgap => hpiece (hempty.mp hgap)
            rw [squeeze_gap hgap htext hne hwords, Bool.true_and,
              if_pos (bne_iff_ne.mpr hpiece)]
            rfl

end Spread

/-! ### Spaced texts -/

theorem not_isWordChar_of_mem_soleMarks {c : Char} (hc : c ∈ soleMarks) : isWordChar c = false := by
  have hmarks : (soleMarks.all fun c => !isWordChar c) = true := by decide +kernel
  simpa using List.all_eq_true.mp hmarks c hc

theorem Delimiter.opening_mem (delimiter : Delimiter) : delimiter.opening ∈ soleMarks := by
  cases delimiter <;> decide +kernel

theorem Delimiter.closing_mem (delimiter : Delimiter) : delimiter.closing ∈ soleMarks := by
  cases delimiter <;> decide +kernel

/-- No word characters meet behind a mark that stands for itself. -/
theorem wordsMeet_of_mem_soleMarks {mark : Char} (hmark : mark ∈ soleMarks)
    (lead behind : List Char) : wordsMeet (lead ++ [mark]) behind = false := by
  rw [wordsMeet_eq List.getLast?_concat, not_isWordChar_of_mem_soleMarks hmark, Bool.false_and]

/-- A group has its content between brackets, with blanks on both sides or on none. -/
theorem exists_spacedOne_group (delimiter : Delimiter) (content : List Token) :
    ∃ left right : List Char, (∀ c ∈ left, isBlank c = true) ∧ (∀ c ∈ right, isBlank c = true) ∧
      (content = [] → right = []) ∧
      Token.spacedOne (.group delimiter content) = [delimiter.opening] ++
        (left ++ (Token.spaced content ++ (right ++ [delimiter.closing]))) := by
  have hnone : ∀ c ∈ ([] : List Char), isBlank c = true := fun _ hc => nomatch hc
  have hspace : ∀ c ∈ [' '], isBlank c = true := List.forall_mem_singleton.mpr (by decide)
  match delimiter, content with
  | .parenthesis, content => exact ⟨[], [], hnone, hnone, fun _ => rfl, rfl⟩
  | .bracket, content => exact ⟨[], [], hnone, hnone, fun _ => rfl, rfl⟩
  | .brace, [] => exact ⟨[' '], [], hspace, hnone, fun _ => rfl, rfl⟩
  | .brace, first :: rest =>
      exact ⟨[' '], [' '], hspace, hspace, fun heq => absurd heq (List.cons_ne_nil _ _), rfl⟩

/-- Whether a gap fits between a token and the text behind it: where word characters meet, it is
empty behind the apostrophe of a lifetime only. -/
structure Fits (token : Token) (gap text : List Char) : Prop where
  blank : ∀ c ∈ gap, isBlank c = true
  meet : wordsMeet token.spacedOne text = true → (gap = [] ↔ token.spacedOne = ['\''])

/-- The gap behind a token in front of another fits. -/
theorem fits_of_lexical {token : Token} (hlexical : ∀ atom ∈ token.atoms, atom.isLexical = true)
    (text : List Char) : Fits token (if token.isJoined then [] else [' ']) text := by
  have hatom (hatoms : token.atoms = [token]) : token.isLexical = true :=
    hlexical token (hatoms ▸ List.mem_singleton_self token)
  refine ⟨fun c hc => ?_, fun hmeet => ?_⟩
  · split_ifs at hc
    · cases hc
    · obtain rfl := List.mem_singleton.mp hc
      decide
  · cases token with
    | ident name line =>
        have hword := beq_iff_eq.mp (hatom rfl)
        refine ⟨fun hnil => absurd hnil (List.cons_ne_nil _ _), fun happostrophe => ?_⟩
        rw [show name.toList = ['\''] from happostrophe] at hword
        cases hword
    | punct mark joined =>
        obtain ⟨hmark, hjoined⟩ := Bool.and_eq_true_iff.mp (hatom rfl)
        have happostrophe : mark = '\'' := by
          by_contra hne
          have hsole := mem_soleMarks (List.contains_iff_mem.mp hmark) hne
          rw [Token.spacedOne, ← List.nil_append [mark], wordsMeet_of_mem_soleMarks hsole] at hmeet
          cases hmeet
        subst happostrophe
        have hjoined : joined = true := hjoined
        subst hjoined
        exact ⟨fun _ => rfl, fun _ => rfl⟩
    | literal text =>
        have hscan := beq_iff_eq.mp (hatom rfl)
        refine ⟨fun hnil => absurd hnil (List.cons_ne_nil _ _), fun happostrophe => ?_⟩
        rw [show text.toList = ['\''] from happostrophe] at hscan
        cases hscan
    | group delimiter content =>
        obtain ⟨left, right, -, -, -, hspaced⟩ := exists_spacedOne_group delimiter content
        rw [hspaced, ← List.append_assoc, ← List.append_assoc, ← List.append_assoc,
          wordsMeet_of_mem_soleMarks delimiter.closing_mem] at hmeet
        cases hmeet

theorem Fits.of_not_isWordChar {token : Token} {gap text : List Char}
    (hgap : ∀ c ∈ gap, isBlank c = true) (htext : text.head?.any isWordChar = false) :
    Fits token gap text where
  blank := hgap
  meet hmeet := by
    rw [wordsMeet, htext, Bool.and_false] at hmeet
    cases hmeet

mutual

theorem Token.spread (token : Token) (hlexical : ∀ atom ∈ token.atoms, atom.isLexical = true)
    {pieces : List (List Char)} {gap text : List Char} (hfits : Fits token gap text)
    (hspread : Spread pieces text) :
    Spread (token.pieces ++ pieces) (token.spacedOne ++ (gap ++ text)) := by
  cases token with
  | group delimiter content =>
    have hmark {mark : Char} (hmark : mark ∈ soleMarks) (gap text : List Char) :
        wordsMeet [mark] text = true → (gap = [] ↔ [mark] = ['\'']) := by
      intro hmeet
      rw [← List.nil_append [mark], wordsMeet_of_mem_soleMarks hmark] at hmeet
      cases hmeet
    obtain ⟨left, right, hleft, hright, hempty, hspaced⟩ := exists_spacedOne_group delimiter content
    have hclosing : Spread ([delimiter.closing] :: pieces) ([delimiter.closing] ++ (gap ++ text)) :=
      .cons hfits.blank (hmark delimiter.closing_mem _ _) hspread
    have hhead : ([delimiter.closing] ++ (gap ++ text)).head?.any isWordChar = false :=
      not_isWordChar_of_mem_soleMarks delimiter.closing_mem
    have hcontent : Spread (piecesOf content ++ [delimiter.closing] :: pieces)
        (Token.spaced content ++ (right ++ ([delimiter.closing] ++ (gap ++ text)))) := by
      by_cases hnil : content = []
      · rw [hempty hnil, hnil]
        exact hclosing
      · exact spread_spaced content hlexical hnil hright hhead hclosing
    have hopening := Spread.cons hleft (hmark delimiter.opening_mem _ _) hcontent
    rw [Token.pieces, hspaced]
    simpa only [List.append_assoc, List.cons_append, List.nil_append] using hopening
  | ident name line => exact .cons hfits.blank hfits.meet hspread
  | punct mark joined => exact .cons hfits.blank hfits.meet hspread
  | literal text => exact .cons hfits.blank hfits.meet hspread

theorem spread_spaced (tokens : List Token) (hlexical : Lexical tokens) (hne : tokens ≠ [])
    {pieces : List (List Char)} {gap text : List Char} (hgap : ∀ c ∈ gap, isBlank c = true)
    (htext : text.head?.any isWordChar = false) (hspread : Spread pieces text) :
    Spread (piecesOf tokens ++ pieces) (Token.spaced tokens ++ (gap ++ text)) := by
  match tokens with
  | [] => exact absurd rfl hne
  | [last] =>
    have hlast : ∀ atom ∈ last.atoms, atom.isLexical = true := fun atom hmem =>
      hlexical atom (by rwa [atomsIn, atomsIn, List.append_nil])
    have hspread := last.spread hlast (.of_not_isWordChar hgap htext) hspread
    rwa [piecesOf, piecesOf, List.append_nil]
  | first :: second :: rest =>
    rw [Lexical, atomsIn, List.forall_mem_append] at hlexical
    have hrest :=
      spread_spaced (second :: rest) hlexical.2 (List.cons_ne_nil _ _) hgap htext hspread
    have hspread := first.spread hlexical.1 (fits_of_lexical hlexical.1 _) hrest
    rw [piecesOf, Token.spaced]
    simpa only [List.append_assoc] using hspread

end

/-- The canonical text of tokens is that of their pieces. -/
theorem canonicalChars_eq_weave {tokens : List Token} (hlexical : Lexical tokens)
    (hkept : ∀ piece ∈ piecesOf tokens, IsKept piece) :
    canonicalChars tokens = weave (piecesOf tokens) := by
  by_cases hne : tokens = []
  · rw [hne]
    rfl
  · have hgap : ∀ c ∈ ([] : List Char), isBlank c = true := fun _ hc => nomatch hc
    have hspread := spread_spaced tokens hlexical hne hgap rfl .nil
    rw [List.append_nil, List.append_nil, List.append_nil] at hspread
    exact hspread.squeeze_eq hkept

/-! ### Pieces that are kept -/

/-- Whether the canonical text of an atom is its text: of the blanks in a literal, it keeps single
spaces between word characters only. -/
def Token.isKept : Token → Bool
  | .literal text => squeeze none text.toList == text.toList
  | _ => true

/-- The literals among the tokens are their own canonical texts. -/
def LiteralsKept (tokens : List Token) : Prop := ∀ atom ∈ atomsIn tokens, atom.isKept = true

theorem not_isSeparator_of_isIdentifierContinue {c : Char} (hc : isIdentifierContinue c = true) :
    Lexeme.isSeparator c = false := by
  have hpoints : ∀ point ∈ separatorPoints, isIdentifierContinue (Char.ofNat point) = false := by
    decide +kernel
  rw [Bool.eq_false_iff]
  intro hseparator
  have hcontinue := hpoints _ (mem_separatorPoints hseparator)
  rw [Char.ofNat_toNat, hc] at hcontinue
  cases hcontinue

theorem not_isBlank_of_goesOn {c : Char} (hc : goesOn c = true) : isBlank c = false := by
  have hseparator : Lexeme.isSeparator c = false :=
    (Bool.or_eq_true_iff.mp hc).elim not_isSeparator_of_isIdentifierStart
      not_isSeparator_of_isIdentifierContinue
  rw [Lexeme.isSeparator, Bool.or_eq_false_iff, Bool.or_eq_false_iff] at hseparator
  exact hseparator.1.1

theorem isKept_of_not_isBlank {piece : List Char} (hne : piece ≠ [])
    (hblank : ∀ c ∈ piece, isBlank c = false) : IsKept piece := by
  obtain ⟨last, hsqueeze⟩ := squeeze_append none hblank []
  have hnil : squeeze last [] = [] := rfl
  rw [List.append_nil, hnil, List.append_nil] at hsqueeze
  exact ⟨hne, hsqueeze⟩

theorem isKept_mark {mark : Char} (hmark : mark ∈ soleMarks ∨ mark = '\'') : IsKept [mark] := by
  have hmarks : (soleMarks.all fun c => !isBlank c) = true := by decide +kernel
  refine isKept_of_not_isBlank (List.cons_ne_nil _ _) (List.forall_mem_singleton.mpr ?_)
  rcases hmark with hmark | rfl
  · simpa using List.all_eq_true.mp hmarks mark hmark
  · decide

theorem isKept_word {word : List Char} (hword : Lexeme.identifier word = some (word, [])) :
    IsKept word := by
  have hmark : isBlank 'r' = false ∧ isBlank '#' = false := by decide
  obtain ⟨first, tail, hname, rfl | ⟨rfl, -⟩⟩ := exists_isName hword
  · exact isKept_of_not_isBlank (List.cons_ne_nil _ _) fun c hc =>
      not_isBlank_of_goesOn (hname.goesOn_of_mem hc)
  · refine isKept_of_not_isBlank (List.cons_ne_nil _ _) ?_
    rw [List.forall_mem_cons, List.forall_mem_cons]
    exact ⟨hmark.1, hmark.2, fun c hc => not_isBlank_of_goesOn (hname.goesOn_of_mem hc)⟩

/-- The pieces of tokens stand in canonical texts as they are. -/
theorem isPiece_and_isKept {tokens : List Token} (hlexical : Lexical tokens)
    (hliterals : LiteralsKept tokens) :
    ∀ piece ∈ piecesOf tokens, IsPiece piece ∧ IsKept piece := by
  intro piece hmem
  rcases mem_piecesOf hmem with ⟨atom, hatom, hpieces⟩ | ⟨delimiter, rfl | rfl⟩
  · have hatomLexical := hlexical atom hatom
    cases atom with
    | ident name line =>
        obtain rfl := (List.cons.inj hpieces).1
        have hword := beq_iff_eq.mp hatomLexical
        exact ⟨.word hword, isKept_word hword⟩
    | punct mark joined =>
        obtain rfl := (List.cons.inj hpieces).1
        have hmark := List.contains_iff_mem.mp (Bool.and_eq_true_iff.mp hatomLexical).1
        by_cases happostrophe : mark = '\''
        · subst happostrophe
          exact ⟨.apostrophe, isKept_mark (.inr rfl)⟩
        · have hsole := mem_soleMarks hmark happostrophe
          exact ⟨.mark hsole, isKept_mark (.inl hsole)⟩
    | literal text =>
        obtain rfl := (List.cons.inj hpieces).1
        have hscan := beq_iff_eq.mp hatomLexical
        refine ⟨.literal hscan, fun hnil => ?_, beq_iff_eq.mp (hliterals _ hatom)⟩
        rw [hnil] at hscan
        cases hscan
    | group delimiter content => cases hatomLexical
  · exact ⟨.mark delimiter.opening_mem, isKept_mark (.inl delimiter.opening_mem)⟩
  · exact ⟨.mark delimiter.closing_mem, isKept_mark (.inl delimiter.closing_mem)⟩

end MarkedRoutes.Source
