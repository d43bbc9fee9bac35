import MarkedRoutes.Proofs.Source.WordEnds

/-!
# Where tokens end

The pieces of a text are its words, literals, punctuation characters and brackets.  A piece is read
back from the head of a longer text unless it runs on into what stands behind it: a word or a
literal in front of another identifier character, a number in front of a point, a few letters in
front of a quote or a hash, an apostrophe in front of no lifetime.
-/

namespace MarkedRoutes.Source

open MarkedRoutes.Text Literal

/-! ### Lifetimes -/

/-- Whether an apostrophe in front of a text begins a lifetime: a name stands there that no other
apostrophe ends as a character. -/
def opensLifetime (behind : List Char) : Bool :=
  (Lexeme.identifier behind).any fun found => found.2.head? != some '\''

theorem identifier_cons (c : Char) {rest : List Char} (hrest : rest.head? ≠ some '#') :
    Lexeme.identifier (c :: rest) =
      if isIdentifierStart c then
        some (c :: rest.takeWhile isIdentifierContinue, rest.dropWhile isIdentifierContinue)
      else none := by
  rw [Lexeme.identifier]
  rintro _ after - rfl
  exact hrest rfl

/-- What begins a lifetime is no character. -/
theorem scan_apostrophe {behind : List Char} (hopens : opensLifetime behind = true) :
    scan ('\'' :: behind) = none := by
  have hbehind : characterRest false behind = none := by
    unfold characterRest
    split
    · next rest =>
      have hnone : Lexeme.identifier ('\\' :: rest) = none := by
        rw [Lexeme.identifier]
        · rfl
        · rintro _ after hc -
          cases hc
      rw [opensLifetime, hnone] at hopens
      cases hopens
    · next c rest hslash =>
      rw [opensLifetime, identifier_cons c (by rintro ⟨⟩)] at hopens
      split_ifs at hopens
      · cases hopens
      · cases hopens
    · rfl
  rw [scan, hbehind]
  rfl

/-! ### Pieces -/

/-- The marks that stand for themselves: the brackets, and punctuation but the apostrophe. -/
def soleMarks : List Char := "()[]\x7b\x7d~!@#$%^&*-=+|;:,<.>/?".toList

theorem mem_soleMarks {c : Char} (hmark : c ∈ Lexeme.punctuation) (hne : c ≠ '\'') :
    c ∈ soleMarks := by
  have hmarks : (Lexeme.punctuation.all fun c => c == '\'' || soleMarks.contains c) = true := by
    decide +kernel
  have hc := List.all_eq_true.mp hmarks c hmark
  simpa [hne] using hc

theorem not_goesOn_of_mem_soleMarks {c : Char} (hc : c ∈ soleMarks) : goesOn c = false := by
  have hmarks : (soleMarks.all fun c => !goesOn c) = true := by decide +kernel
  simpa using List.all_eq_true.mp hmarks c hc

/-- No literal begins with a mark that stands for itself. -/
theorem scan_of_mem_soleMarks {c : Char} (hc : c ∈ soleMarks) (rest : List Char) :
    scan (c :: rest) = none := by
  have hopenings : (soleMarks.all fun c => !("\"rbc'".toList.contains c || c.isDigit)) = true := by
    decide +kernel
  have hopening := List.all_eq_true.mp hopenings c hc
  rw [Bool.not_eq_true', Bool.or_eq_false_iff] at hopening
  have hne {letter : Char} (hletter : "\"rbc'".toList.contains letter = true) : c ≠ letter := by
    rintro rfl
    rw [hletter] at hopening
    cases hopening.1
  rw [scan]
  · by_contra hnumber
    obtain ⟨found, hfound⟩ := Option.ne_none_iff_exists'.mp hnumber
    obtain ⟨d, rest, htext, hdigit⟩ := isDigit_of_number hfound
    rw [← (List.cons.inj htext).1, hopening.2] at hdigit
    cases hdigit
  all_goals exact fun _ heq => hne (by decide +kernel) (List.cons.inj heq).1

/-- The text of a token that is no group, or of a bracket. -/
inductive IsPiece : List Char → Prop
  | mark {c : Char} (hmark : c ∈ soleMarks) : IsPiece [c]
  | apostrophe : IsPiece ['\'']
  | word {word : List Char} (hword : Lexeme.identifier word = some (word, [])) : IsPiece word
  | literal {text : List Char} (hscan : scan text = some (text, [])) : IsPiece text

/-- Whether a piece would be read as something longer, or as something else, in front of a
text. -/
def runsOn (piece behind : List Char) : Bool :=
  if piece = ['\''] then !opensLifetime behind
  else if piece.all soleMarks.contains then false
  else behind.head?.any goesOn || (piece.head?.any Char.isDigit && numberGoesOn piece behind) ||
    (literalLetters.contains piece && behind.head?.any literalMarks.contains)

section RunsOn

variable {c : Char} {piece behind : List Char} (hc : c ∉ soleMarks) (hne : c :: piece ≠ ['\''])
  (hruns : runsOn (c :: piece) behind = false)
include hc hne hruns

theorem runsOn_eq_false : (behind.head?.any goesOn = false ∧
    (c.isDigit && numberGoesOn (c :: piece) behind) = false) ∧
    (literalLetters.contains (c :: piece) && behind.head?.any literalMarks.contains) = false := by
  have hall : ((c :: piece).all soleMarks.contains) ≠ true := by
    intro hall
    exact hc (List.contains_iff_mem.mp (Bool.and_eq_true_iff.mp hall).1)
  rwa [runsOn, if_neg hne, if_neg hall, Bool.or_eq_false_iff, Bool.or_eq_false_iff] at hruns

theorem stops_behind : Stops behind := by
  intro d hd
  have hbehind := (runsOn_eq_false hc hne hruns).1.1
  rwa [Option.mem_def.mp hd] at hbehind

theorem not_numberGoesOn (hdigit : (c :: piece).head?.any Char.isDigit = true) :
    numberGoesOn (c :: piece) behind = false := by
  have hnumber := (runsOn_eq_false hc hne hruns).1.2
  rwa [show c.isDigit = true from hdigit] at hnumber

theorem notMem_literalMarks_behind (hletters : c :: piece ∈ literalLetters) :
    ∀ d ∈ behind.head?, d ∉ literalMarks := by
  intro d hd hmark
  have hbehind := (runsOn_eq_false hc hne hruns).2
  rw [List.contains_iff_mem.mpr hletters, Option.mem_def.mp hd, Bool.true_and, Option.any_some,
    List.contains_iff_mem.mpr hmark] at hbehind
  cases hbehind

end RunsOn

def headPiece (text : List Char) : Scan :=
  match text with
  | c :: rest =>
    if c ∈ soleMarks then some ([c], rest)
    else
      match scan text with
      | some found => some found
      | none => if c = '\'' then some (['\''], rest) else Lexeme.identifier text
  | [] => none

theorem exists_cons_of_word {word : List Char} (hword : Lexeme.identifier word = some (word, [])) :
    ∃ c rest, word = c :: rest ∧ goesOn c = true := by
  obtain ⟨first, tail, hname, rfl | ⟨rfl, -⟩⟩ := exists_isName hword
  · exact ⟨first, tail, rfl, hname.goesOn_of_mem List.mem_cons_self⟩
  · exact ⟨'r', '#' :: first :: tail, rfl, by decide⟩

/-- A piece that does not run on is read back. -/
theorem headPiece_append {piece behind : List Char} (hpiece : IsPiece piece)
    (hruns : runsOn piece behind = false) : headPiece (piece ++ behind) = some (piece, behind) := by
  cases hpiece with
  | mark hmark => exact if_pos hmark
  | apostrophe =>
      rw [runsOn, if_pos rfl, Bool.not_eq_false'] at hruns
      have hmark : '\'' ∉ soleMarks := by decide +kernel
      rw [List.singleton_append, headPiece, if_neg hmark, scan_apostrophe hruns, if_pos rfl]
  | word hword =>
      obtain ⟨c, rest, rfl, hgoes⟩ := exists_cons_of_word hword
      have hc : c ∉ soleMarks := by
        intro hmem
        rw [not_goesOn_of_mem_soleMarks hmem] at hgoes
        cases hgoes
      have hapostrophe : c ≠ '\'' := by
        rintro rfl
        exact absurd hgoes (by decide +kernel)
      have hne : c :: rest ≠ ['\''] := fun heq => hapostrophe (List.cons.inj heq).1
      have hstops := stops_behind hc hne hruns
      have hmarks := notMem_literalMarks_behind hc hne hruns
      have hscan := scan_word hstops hmarks hword
      have hidentifier := identifier_append hstops hmarks hword
      rw [List.cons_append] at hscan hidentifier ⊢
      rw [headPiece, if_neg hc, hscan]
      dsimp only
      rw [if_neg hapostrophe, hidentifier]
  | literal hscan =>
      obtain ⟨c, rest, rfl⟩ : ∃ c rest, piece = c :: rest := by
        cases piece with
        | nil => cases hscan
        | cons c rest => exact ⟨c, rest, rfl⟩
      have hc : c ∉ soleMarks := by
        intro hmem
        rw [scan_of_mem_soleMarks hmem] at hscan
        cases hscan
      have hne : c :: rest ≠ ['\''] := by
        intro heq
        rw [heq] at hscan
        cases hscan
      have happend := scan_append (stops_behind hc hne hruns) hscan
        (not_numberGoesOn hc hne hruns)
      rw [List.cons_append] at happend ⊢
      rw [headPiece, if_neg hc, happend]

end MarkedRoutes.Source
