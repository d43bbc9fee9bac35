import MarkedRoutes.Proofs.Source.BalancedTypes
import MarkedRoutes.Proofs.Source.PieceEnds

/-!
# Pieces of tokens

A token sequence is flattened to the pieces of its text: one for each identifier, literal and
punctuation character, and two brackets around the pieces of a group.  Every piece says which token
or bracket it is, and nested by their brackets the pieces are the tokens again, up to lines and to
the spacing of punctuation.  So two sequences are the same when their pieces are.
-/

namespace MarkedRoutes.Source

open MarkedRoutes.Text Literal

/-! ### Pieces of tokens -/

def Delimiter.opening : Delimiter → Char
  | .parenthesis => '('
  | .bracket => '['
  | .brace => '\x7b'

def Delimiter.closing : Delimiter → Char
  | .parenthesis => ')'
  | .bracket => ']'
  | .brace => '\x7d'

mutual

/-- The pieces of a token tree, brackets included. -/
def Token.pieces : Token → List (List Char)
  | .ident name _ => [name.toList]
  | .punct mark _ => [[mark]]
  | .literal text => [text.toList]
  | .group delimiter content => [delimiter.opening] :: (piecesOf content ++ [[delimiter.closing]])

/-- The pieces of a token sequence, brackets included. -/
def piecesOf : List Token → List (List Char)
  | [] => []
  | first :: rest => first.pieces ++ piecesOf rest

end

mutual

/-- A token tree without its lines and without the spacing of its punctuation. -/
def Token.bare : Token → Token
  | .ident name _ => .ident name 0
  | .punct mark _ => .punct mark false
  | .literal text => .literal text
  | .group delimiter content => .group delimiter (bareAll content)

/-- Tokens without their lines and without the spacing of their punctuation. -/
def bareAll : List Token → List Token
  | [] => []
  | first :: rest => first.bare :: bareAll rest

end

/-- The same sequence of tokens, with the spacing of punctuation ignored. -/
def SameTokens (left right : List Token) : Prop := bareAll left = bareAll right

mutual

theorem Token.pieces_bare (token : Token) : token.bare.pieces = token.pieces := by
  cases token with
  | group delimiter content => rw [Token.bare, Token.pieces, Token.pieces, piecesOf_bareAll content]
  | _ => rfl

theorem piecesOf_bareAll (tokens : List Token) : piecesOf (bareAll tokens) = piecesOf tokens := by
  cases tokens with
  | nil => rfl
  | cons first rest =>
      rw [bareAll, piecesOf, piecesOf, first.pieces_bare, piecesOf_bareAll rest]

end

mutual

theorem Token.mem_pieces {token : Token} {piece : List Char} (hmem : piece ∈ token.pieces) :
    (∃ atom ∈ token.atoms, atom.pieces = [piece]) ∨
      ∃ delimiter : Delimiter, piece = [delimiter.opening] ∨ piece = [delimiter.closing] := by
  cases token with
  | group delimiter content =>
    rw [Token.pieces, List.mem_cons, List.mem_append, List.mem_singleton] at hmem
    rcases hmem with hopening | hmem | hclosing
    · exact .inr ⟨delimiter, .inl hopening⟩
    · exact mem_piecesOf hmem
    · exact .inr ⟨delimiter, .inr hclosing⟩
  | _ =>
    obtain rfl := List.mem_singleton.mp hmem
    exact .inl ⟨_, List.mem_singleton_self _, rfl⟩

/-- The pieces of tokens are those of their atoms and the brackets around their groups. -/
theorem mem_piecesOf {tokens : List Token} {piece : List Char} (hmem : piece ∈ piecesOf tokens) :
    (∃ atom ∈ atomsIn tokens, atom.pieces = [piece]) ∨
      ∃ delimiter : Delimiter, piece = [delimiter.opening] ∨ piece = [delimiter.closing] := by
  cases tokens with
  | nil => cases hmem
  | cons first rest =>
    rw [piecesOf, List.mem_append] at hmem
    rcases hmem with hmem | hmem
    · exact (first.mem_pieces hmem).imp_left fun ⟨atom, hatom, hpieces⟩ =>
        ⟨atom, List.mem_append_left _ hatom, hpieces⟩
    · exact (mem_piecesOf hmem).imp_left fun ⟨atom, hatom, hpieces⟩ =>
        ⟨atom, List.mem_append_right _ hatom, hpieces⟩

end

/-- An atom that is one token on its own. -/
def Token.isLexical : Token → Bool
  | .ident name _ => Lexeme.identifier name.toList == some (name.toList, [])
  | .punct mark joined => Lexeme.punctuation.contains mark && (mark != '\'' || joined)
  | .literal text => Literal.scan text.toList == some (text.toList, [])
  | .group _ _ => false

/-- Every atom of the tokens is one token on its own. -/
def Lexical (tokens : List Token) : Prop := ∀ atom ∈ atomsIn tokens, atom.isLexical = true

/-! ### Tokens from pieces -/

def leafOf (piece : List Char) : Token :=
  if (scan piece).isSome then .literal (String.ofList piece)
  else
    match piece with
    | [mark] =>
      if mark ∈ Lexeme.punctuation then .punct mark false else .ident (String.ofList piece) 0
    | _ => .ident (String.ofList piece) 0

/-- The token or the bracket that a piece is. -/
def lexemeOf (piece : List Char) : Lexeme :=
  match piece.head?.bind Lexeme.bracketOf with
  | some bracket => bracket
  | none => .leaf (leafOf piece)

theorem bracketOf_eq_none {c : Char} (hc : c ∈ Lexeme.punctuation ∨ c ∉ soleMarks) :
    Lexeme.bracketOf c = none := by
  have hbracket {bracket : Char} (hpunctuation : bracket ∉ Lexeme.punctuation)
      (hsole : bracket ∈ soleMarks) : (c == bracket) = false := by
    rw [beq_eq_false_iff_ne]
    rintro rfl
    exact hc.elim hpunctuation fun hne => hne hsole
  unfold Lexeme.bracketOf
  rw [hbracket, hbracket, hbracket, hbracket, hbracket, hbracket]
  · rfl
  all_goals decide +kernel

theorem lexemeOf_opening (delimiter : Delimiter) :
    lexemeOf [delimiter.opening] = .openGroup delimiter := by
  cases delimiter <;> rfl

theorem lexemeOf_closing (delimiter : Delimiter) :
    lexemeOf [delimiter.closing] = .closeGroup delimiter := by
  cases delimiter <;> rfl

theorem scan_mark {mark : Char} (hmark : mark ∈ Lexeme.punctuation) : scan [mark] = none := by
  by_cases happostrophe : mark = '\''
  · subst happostrophe
    rfl
  · exact scan_of_mem_soleMarks (mem_soleMarks hmark happostrophe) []

theorem not_goesOn_of_mem_punctuation {c : Char} (hc : c ∈ Lexeme.punctuation) :
    goesOn c = false := by
  by_cases happostrophe : c = '\''
  · subst happostrophe
    decide +kernel
  · exact not_goesOn_of_mem_soleMarks (mem_soleMarks hc happostrophe)

theorem leafOf_word {word : List Char} (hword : Lexeme.identifier word = some (word, [])) :
    leafOf word = .ident (String.ofList word) 0 := by
  have hscan : scan word = none := by
    rw [← List.append_nil word]
    exact scan_word stops_nil (fun _ _ hc => nomatch hc) hword
  obtain ⟨c, rest, rfl, hgoes⟩ := exists_cons_of_word hword
  unfold leafOf
  rw [hscan, if_neg (by decide)]
  cases rest with
  | nil =>
      refine if_neg fun hmem => ?_
      rw [not_goesOn_of_mem_punctuation hmem] at hgoes
      cases hgoes
  | cons d rest => rfl

theorem leafOf_mark {mark : Char} (hmark : mark ∈ Lexeme.punctuation) :
    leafOf [mark] = .punct mark false := by
  rw [leafOf, scan_mark hmark]
  exact if_pos hmark

theorem leafOf_literal {text : List Char} (hscan : scan text = some (text, [])) :
    leafOf text = .literal (String.ofList text) := by
  unfold leafOf
  rw [hscan]
  rfl

theorem lexemeOf_cons {c : Char} (hc : Lexeme.bracketOf c = none) (rest : List Char) :
    lexemeOf (c :: rest) = .leaf (leafOf (c :: rest)) := by
  rw [lexemeOf, List.head?_cons, Option.bind_some, hc]

theorem lexemeOf_word {word : List Char} (hword : Lexeme.identifier word = some (word, [])) :
    lexemeOf word = .leaf (.ident (String.ofList word) 0) := by
  rw [← leafOf_word hword]
  obtain ⟨c, rest, rfl, hgoes⟩ := exists_cons_of_word hword
  refine lexemeOf_cons (bracketOf_eq_none (.inr fun hmem => ?_)) rest
  rw [not_goesOn_of_mem_soleMarks hmem] at hgoes
  cases hgoes

theorem lexemeOf_literal {text : List Char} (hscan : scan text = some (text, [])) :
    lexemeOf text = .leaf (.literal (String.ofList text)) := by
  rw [← leafOf_literal hscan]
  cases text with
  | nil => cases hscan
  | cons c rest =>
      refine lexemeOf_cons (bracketOf_eq_none (.inr fun hmem => ?_)) rest
      rw [scan_of_mem_soleMarks hmem] at hscan
      cases hscan

/-- The piece of an atom gives the atom. -/
theorem lexemeOf_atom {atom : Token} (hlexical : atom.isLexical = true) :
    atom.pieces.map lexemeOf = [.leaf atom.bare] := by
  cases atom with
  | ident name line =>
      rw [Token.pieces, List.map_singleton, lexemeOf_word (beq_iff_eq.mp hlexical),
        String.ofList_toList, Token.bare]
  | punct mark joined =>
      have hmark := List.contains_iff_mem.mp (Bool.and_eq_true_iff.mp hlexical).1
      rw [Token.pieces, List.map_singleton, lexemeOf_cons (bracketOf_eq_none (.inl hmark)),
        leafOf_mark hmark, Token.bare]
  | literal text =>
      rw [Token.pieces, List.map_singleton, lexemeOf_literal (beq_iff_eq.mp hlexical),
        String.ofList_toList, Token.bare]
  | group delimiter content => cases hlexical

section Nesting

open Lexeme

mutual

theorem nest_pieces_token {token : Token} (hlexical : ∀ atom ∈ token.atoms, atom.isLexical = true)
    (frames : List Frame) (done : List Token) (rest : List Lexeme) :
    nest frames done (token.pieces.map lexemeOf ++ rest) =
      nest frames (token.bare :: done) rest := by
  cases token with
  | group delimiter content =>
    rw [Token.atoms] at hlexical
    rw [Token.pieces, List.map_cons, List.map_append, List.map_singleton, lexemeOf_opening,
      lexemeOf_closing, List.cons_append, List.append_assoc, nest, nest_pieces hlexical,
      List.singleton_append, nest, if_pos rfl, List.append_nil, List.reverse_reverse, Token.bare]
  | _ =>
    rw [lexemeOf_atom (hlexical _ (by rw [Token.atoms]; exact List.mem_singleton_self _))]
    rfl

theorem nest_pieces {tokens : List Token} (hlexical : Lexical tokens)
    (frames : List Frame) (done : List Token) (rest : List Lexeme) :
    nest frames done ((piecesOf tokens).map lexemeOf ++ rest) =
      nest frames ((bareAll tokens).reverse ++ done) rest := by
  cases tokens with
  | nil => rfl
  | cons first others =>
    rw [Lexical, atomsIn, List.forall_mem_append] at hlexical
    rw [piecesOf, List.map_append, List.append_assoc, nest_pieces_token hlexical.1,
      nest_pieces hlexical.2, bareAll, List.reverse_cons, List.append_assoc]
    rfl

end

end Nesting

/-- Nested by their brackets, the pieces of tokens are the tokens. -/
theorem nest_piecesOf {tokens : List Token} (hlexical : Lexical tokens) :
    Lexeme.nest [] [] ((piecesOf tokens).map lexemeOf) = some (bareAll tokens) := by
  have hnest := nest_pieces hlexical [] [] []
  rw [List.append_nil, List.append_nil] at hnest
  rw [hnest, Lexeme.nest, List.reverse_reverse]
  rfl

theorem SameTokens.piecesOf_eq {left right : List Token} (hsame : SameTokens left right) :
    piecesOf left = piecesOf right :=
  calc
    piecesOf left = piecesOf (bareAll left) := (piecesOf_bareAll left).symm
    _ = piecesOf (bareAll right) := congrArg piecesOf hsame
    _ = piecesOf right := piecesOf_bareAll right

/-- Tokens are the same when their pieces are. -/
theorem sameTokens_iff {left right : List Token} (hleft : Lexical left) (hright : Lexical right) :
    SameTokens left right ↔ piecesOf left = piecesOf right := by
  refine ⟨SameTokens.piecesOf_eq, fun hpieces => ?_⟩
  have hnest := nest_piecesOf hleft
  rw [hpieces, nest_piecesOf hright] at hnest
  exact (Option.some.inj hnest).symm

end MarkedRoutes.Source
