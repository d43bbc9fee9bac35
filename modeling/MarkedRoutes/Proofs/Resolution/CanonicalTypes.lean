import MarkedRoutes.Declaration
import MarkedRoutes.Proofs.Source.SqueezedPieces

/-!
# Types with the same canonical text

The canonical text of a type is the text by which a converter is found.  It is read back piece by
piece, from the left, when it leaves the literals of the type as they are and no piece runs on into
what stands behind it; then it says which tokens the type consists of.  A canonical text is made of
characters and not of tokens, though: a blank in a literal is squeezed like one between tokens, and
two different types can get the same text.
-/

namespace MarkedRoutes

namespace Source

open MarkedRoutes.Text Literal

/-! ### Canonical texts that are read back -/

/-- No piece runs on into the canonical text behind it. -/
def areApart : List (List Char) → Bool
  | [] => true
  | piece :: pieces =>
    !runsOn piece (parting piece (weave pieces) ++ weave pieces) && areApart pieces

section Weave

variable {left right : List (List Char)}

theorem weave_ne_nil {piece : List Char} (hkept : IsKept piece) (pieces : List (List Char)) :
    weave (piece :: pieces) ≠ [] := by
  rw [weave]
  exact List.append_ne_nil_of_left_ne_nil hkept.ne_nil _

theorem not_isBlank_head_weave (hkept : ∀ piece ∈ left, IsKept piece) :
    ∀ c ∈ (weave left).head?, isBlank c = false := by
  cases left with
  | nil => exact fun _ hc => nomatch hc
  | cons piece pieces =>
      have hpiece := hkept piece List.mem_cons_self
      intro c hc
      rw [weave, List.head?_append_of_ne_nil _ hpiece.ne_nil] at hc
      exact hpiece.not_isBlank_head hc

/-- A parting can be told from the text behind it. -/
theorem parting_append_inj {piece first second : List Char}
    (hfirst : ∀ c ∈ first.head?, isBlank c = false)
    (hsecond : ∀ c ∈ second.head?, isBlank c = false)
    (heq : parting piece first ++ first = parting piece second ++ second) : first = second := by
  have hspace : isBlank ' ' = true := by decide
  unfold parting at heq
  split_ifs at heq
  · exact List.append_cancel_left heq
  · rw [List.nil_append] at heq
    have hblank := hsecond ' ' (by rw [← heq]; rfl)
    rw [hspace] at hblank
    cases hblank
  · rw [List.nil_append] at heq
    have hblank := hfirst ' ' (by rw [heq]; rfl)
    rw [hspace] at hblank
    cases hblank
  · exact heq

/-- Pieces that are apart can be told from their canonical text. -/
theorem weave_inj (hleft : ∀ piece ∈ left, IsPiece piece ∧ IsKept piece)
    (hright : ∀ piece ∈ right, IsPiece piece ∧ IsKept piece) (hleftApart : areApart left = true)
    (hrightApart : areApart right = true) (heq : weave left = weave right) : left = right := by
  induction left generalizing right with
  | nil =>
      cases right with
      | nil => rfl
      | cons piece pieces =>
          exact absurd heq.symm (weave_ne_nil (hright piece List.mem_cons_self).2 pieces)
  | cons piece pieces ih =>
      cases right with
      | nil => exact absurd heq (weave_ne_nil (hleft piece List.mem_cons_self).2 pieces)
      | cons other others =>
          obtain ⟨⟨hpiece, -⟩, hpieces⟩ := List.forall_mem_cons.mp hleft
          obtain ⟨⟨hother, -⟩, hothers⟩ := List.forall_mem_cons.mp hright
          rw [areApart, Bool.and_eq_true, Bool.not_eq_true'] at hleftApart hrightApart
          have hread := headPiece_append hpiece hleftApart.1
          rw [weave, weave] at heq
          rw [heq, headPiece_append hother hrightApart.1] at hread
          obtain ⟨rfl, hbehind⟩ := Prod.mk.inj (Option.some.inj hread)
          have hrest := parting_append_inj (not_isBlank_head_weave fun p hp => (hothers p hp).2)
            (not_isBlank_head_weave fun p hp => (hpieces p hp).2) hbehind
          rw [ih hpieces hothers hleftApart.2 hrightApart.2 hrest.symm]

end Weave

/-- Tokens whose canonical text can be read back: every atom is one token on its own, canonical
texts leave its literals as they are, and no piece runs on into what stands behind it. -/
structure IsLegible (tokens : List Token) : Prop where
  lexical : Lexical tokens
  literals : LiteralsKept tokens
  apart : areApart (piecesOf tokens) = true

theorem IsLegible.canonicalChars_eq {tokens : List Token} (hlegible : IsLegible tokens) :
    canonicalChars tokens = weave (piecesOf tokens) :=
  canonicalChars_eq_weave hlegible.lexical fun piece hmem =>
    (isPiece_and_isKept hlegible.lexical hlegible.literals piece hmem).2

instance (tokens : List Token) : Decidable (IsLegible tokens) :=
  decidable_of_iff ((∀ atom ∈ atomsIn tokens, atom.isLexical = true) ∧
      (∀ atom ∈ atomsIn tokens, atom.isKept = true) ∧ areApart (piecesOf tokens) = true)
    ⟨fun h => ⟨h.1, h.2.1, h.2.2⟩, fun h => ⟨h.lexical, h.literals, h.apart⟩⟩

theorem canonicalText_eq_iff {left right : List Token} (hleft : IsLegible left)
    (hright : IsLegible right) :
    canonicalText left = canonicalText right ↔ SameTokens left right := by
  rw [canonicalText_eq, canonicalText_eq, String.ofList_inj, hleft.canonicalChars_eq,
    hright.canonicalChars_eq, sameTokens_iff hleft.lexical hright.lexical]
  constructor
  · exact weave_inj (isPiece_and_isKept hleft.lexical hleft.literals)
      (isPiece_and_isKept hright.lexical hright.literals) hleft.apart hright.apart
  · exact congrArg weave

end Source

open Source

/-! ### Targets of converters -/

/-- The declaration that an implementation of `Converter<target>` makes. -/
def DeclaresTarget (target : TypeExpr) (declared : ConverterDeclaration) : Prop :=
  ∃ (file modulePath : String) (line : ℕ) (interface : ImplementedInterface) (subject : TypeExpr)
      (arguments : GenericArguments),
    interface.path.segments.getLast? = some (.mk "Converter" (some arguments)) ∧
      arguments.types = [target] ∧
      converterOfImplementation? file modulePath line interface subject = some declared

theorem DeclaresTarget.target_eq {target : TypeExpr} {declared : ConverterDeclaration}
    (hdeclares : DeclaresTarget target declared) : declared.target = target.canonical := by
  obtain ⟨file, modulePath, line, interface, subject, arguments, hlast, htypes, hdeclared⟩ :=
    hdeclares
  rw [converterOfImplementation?, hlast] at hdeclared
  simp only [htypes] at hdeclared
  cases hdeclared
  rfl

/-- The canonical text of a legible type has its pieces one after the other and spaces between word
characters, and two legible types have the same canonical text, and converters to them the same
target, exactly when they consist of the same tokens. -/
theorem canonical_eq_iff_sameTokens {first second : TypeExpr} (hfirst : IsLegible first.tokens)
    (hsecond : IsLegible second.tokens) :
    first.canonical.toList = weave (piecesOf first.tokens) ∧
    (first.canonical = second.canonical ↔ SameTokens first.tokens second.tokens) ∧
    ∀ left right, DeclaresTarget first left → DeclaresTarget second right →
      (left.target = right.target ↔ SameTokens first.tokens second.tokens) := by
  have hsame : first.canonical = second.canonical ↔ SameTokens first.tokens second.tokens :=
    canonicalText_eq_iff hfirst hsecond
  refine ⟨?_, hsame, fun left right hleft hright => ?_⟩
  · calc
      first.canonical.toList = canonicalChars first.tokens := String.toList_ofList
      _ = weave (piecesOf first.tokens) := hfirst.canonicalChars_eq
  · rw [hleft.target_eq, hright.target_eq, hsame]

/-- What a text is read as can be told by evaluation. -/
theorem exists_type_of_text (text : String) (test : TypeExpr → Bool)
    (hread : (typeOfText? text).any test = true) :
    ∃ type, typeOfText? text = some type ∧ test type = true := by
  cases htype : typeOfText? text with
  | none =>
      rw [htype] at hread
      cases hread
  | some type =>
      rw [htype] at hread
      exact ⟨type, rfl, hread⟩

theorem exists_legible_of_text (text : String) (pieces : List String)
    (hread : (typeOfText? text).any (fun type =>
      decide (IsLegible type.tokens ∧ piecesOf type.tokens = pieces.map String.toList)) = true) :
    ∃ type, typeOfText? text = some type ∧ IsLegible type.tokens ∧
      piecesOf type.tokens = pieces.map String.toList := by
  obtain ⟨type, htype, htest⟩ := exists_type_of_text text _ hread
  exact ⟨type, htype, of_decide_eq_true htest⟩

/-- Two spellings of a type with a lifetime and a blank in a literal, and a type with another
literal. -/
theorem canonical_eq_iff_sameTokens_spellings : ∃ first second other,
    typeOfText? "Sep<'a, \"a b\">" = some first ∧
    typeOfText? "Sep < 'a , \"a b\" >" = some second ∧
    typeOfText? "Sep<'a, \"a.b\">" = some other ∧
    IsLegible first.tokens ∧ IsLegible second.tokens ∧ IsLegible other.tokens ∧
    first.canonical = second.canonical ∧ first.canonical ≠ other.canonical := by
  obtain ⟨first, hfirst, hlegible, hpieces⟩ := exists_legible_of_text "Sep<'a, \"a b\">"
    ["Sep", "<", "'", "a", ",", "\"a b\"", ">"] (by decide +kernel)
  obtain ⟨second, hsecond, hlegibleSecond, hpiecesSecond⟩ :=
    exists_legible_of_text "Sep < 'a , \"a b\" >"
      ["Sep", "<", "'", "a", ",", "\"a b\"", ">"] (by decide +kernel)
  obtain ⟨other, hother, hlegibleOther, hpiecesOther⟩ := exists_legible_of_text "Sep<'a, \"a.b\">"
    ["Sep", "<", "'", "a", ",", "\"a.b\"", ">"] (by decide +kernel)
  refine ⟨first, second, other, hfirst, hsecond, hother, hlegible, hlegibleSecond, hlegibleOther,
    ?_, ?_⟩
  · refine (canonical_eq_iff_sameTokens hlegible hlegibleSecond).2.1.mpr ?_
    rw [sameTokens_iff hlegible.lexical hlegibleSecond.lexical, hpieces, hpiecesSecond]
  · intro heq
    have hsame := (canonical_eq_iff_sameTokens hlegible hlegibleOther).2.1.mp heq
    rw [sameTokens_iff hlegible.lexical hlegibleOther.lexical, hpieces, hpiecesOther] at hsame
    exact absurd hsame (by decide)

/-- The canonical text drops a blank of a literal, so an array of four elements and one of three get
the same, and converters to them the same target. -/
theorem canonical_eq_of_blank_in_literal : ∃ first second,
    typeOfText? "[u8; \"a, b\".len()]" = some first ∧
    typeOfText? "[u8; \"a,b\".len()]" = some second ∧
    first.canonical = second.canonical ∧
    (∀ left right, DeclaresTarget first left → DeclaresTarget second right →
      left.target = right.target) ∧
    ¬ SameTokens first.tokens second.tokens := by
  obtain ⟨first, hfirst, htest⟩ := exists_type_of_text "[u8; \"a, b\".len()]"
    (fun type => type.canonical == "[u8;\"a,b\".len()]" &&
      (piecesOf type.tokens).contains "\"a, b\"".toList) (by decide +kernel)
  obtain ⟨second, hsecond, htestSecond⟩ := exists_type_of_text "[u8; \"a,b\".len()]"
    (fun type => type.canonical == "[u8;\"a,b\".len()]" &&
      !(piecesOf type.tokens).contains "\"a, b\"".toList) (by decide +kernel)
  rw [Bool.and_eq_true, beq_iff_eq] at htest htestSecond
  have hcanonical : first.canonical = second.canonical := htest.1.trans htestSecond.1.symm
  refine ⟨first, second, hfirst, hsecond, hcanonical, fun left right hleft hright => ?_,
    fun hsame => ?_⟩
  · rw [hleft.target_eq, hright.target_eq, hcanonical]
  · rw [← hsame.piecesOf_eq, htest.2] at htestSecond
    cases htestSecond.2

end MarkedRoutes
