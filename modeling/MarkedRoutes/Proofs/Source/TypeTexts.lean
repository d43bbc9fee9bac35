import MarkedRoutes.Proofs.Source.BalancedReaders
import MarkedRoutes.Proofs.Source.TokenNames
import MarkedRoutes.Proofs.Source.WordEnds

/-!
# Texts of types

The words, marks and literals of a text that was read: a word is an identifier, a mark is
punctuation, and every literal shows.  So a type is balanced when no literal of its text holds a
character that types are put together with.
-/

namespace MarkedRoutes.Source

open MarkedRoutes.Text

namespace Literal

variable {text : List Char} {found : List Char × List Char}

theorem mem_withSuffix {taken : List Char} {c : Char} (hmem : c ∈ taken) (rest : List Char) :
    c ∈ (withSuffix taken rest).1 := by
  unfold withSuffix
  grind

theorem quote_mem_of_stringOf {lead : List Char} {raw bytes : Bool}
    (hread : stringOf lead raw bytes text = some found) : '"' ∈ found.1 := by
  rw [stringOf] at hread
  obtain ⟨⟨value, taken, rest⟩, hbody, rfl⟩ := Option.map_eq_some_iff.mp hread
  have hquote : '"' ∈ taken := by
    unfold stringBody at hbody
    grind [Option.map_eq_some_iff]
  exact mem_withSuffix (List.mem_append_right lead hquote) rest

/-- The digits in front of a decimal point are taken. -/
theorem mem_of_mem_takeWhile {isDigitMark : Char → Bool} {c : Char}
    (hread : number.decimal isDigitMark text = some found)
    (hmem : c ∈ text.takeWhile isDigitMark) : c ∈ found.1 := by
  unfold number.decimal at hread
  grind [mem_withSuffix]

theorem digit_mem_of_number (hread : number text = some found) :
    ∃ c ∈ found.1, c.isDigit = true := by
  have hwhole {c : Char} {rest : List Char} (hc : c.isDigit = true)
      (hdecimal : number.decimal (fun c => c.isDigit || c == '_') (c :: rest) = some found) :
      ∃ c ∈ found.1, c.isDigit = true := by
    refine ⟨c, mem_of_mem_takeWhile hdecimal ?_, hc⟩
    rw [List.takeWhile_cons_of_pos (by rw [hc]; rfl)]
    exact List.mem_cons_self
  unfold number at hread
  dsimp only at hread
  split at hread
  · split_ifs at hread
    · cases hread
      exact ⟨'0', List.mem_cons_self, by decide⟩
    · exact hwhole (by decide) hread
  · split_ifs at hread with hc
    exact hwhole hc hread
  · cases hread

/-- A literal shows. -/
theorem exists_visible_of_scan (hread : scan text = some found) :
    ∃ c ∈ found.1, isBlank c = false := by
  have hquote : isBlank '"' = false := by decide
  have happostrophe : isBlank '\'' = false := by decide
  have hdigit {c : Char} (hc : c.isDigit = true) : isBlank c = false := by
    rw [Char.isDigit, Bool.and_eq_true, decide_eq_true_eq, decide_eq_true_eq] at hc
    have hlow : 48 ≤ c.toNat := hc.1
    have hhigh : c.toNat ≤ 57 := hc.2
    simp only [isBlank, Bool.or_eq_false_iff, Bool.and_eq_false_iff, decide_eq_false_iff_not,
      beq_eq_false_iff_ne]
    omega
  unfold scan at hread
  split at hread
  all_goals first
    | exact ⟨'"', quote_mem_of_stringOf hread, hquote⟩
    | (obtain ⟨taken, htaken, rfl⟩ := Option.map_eq_some_iff.mp hread
       exact ⟨'\'', mem_withSuffix (by simp) _, happostrophe⟩)
    | (obtain ⟨c, hmem, hc⟩ := digit_mem_of_number hread
       exact ⟨c, hmem, hdigit hc⟩)

end Literal

/-- Whether an atom is no literal that holds a character that types are put together with. -/
def Token.isQuiet : Token → Bool
  | .literal text => text.toList.all fun c => !typeMarks.contains c
  | _ => true

/-- Whether no literal of a text holds a colon, a hyphen or a bracket. -/
def hasQuietLiterals (text : String) : Bool :=
  (readTokens text.toList).all fun tokens => (atomsIn tokens).all Token.isQuiet

theorem isPlainText_of_isQuiet {text : String} (hvisible : ∃ c ∈ text.toList, isBlank c = false)
    (hquiet : (Token.literal text).isQuiet = true) : isPlainText text = true := by
  rw [Token.isQuiet, List.all_eq_true] at hquiet
  exact isPlainText_iff.mpr ⟨hvisible, fun c hmem => by simpa using hquiet c hmem⟩

namespace Lexeme

theorem isPlainText_name {c : Char} {rest : List Char} (lead : List Char)
    (hlead : ∀ c ∈ lead, c ∉ typeMarks) (hc : isIdentifierStart c = true)
    (hrest : rest.all isIdentifierContinue = true) :
    isPlainText (String.ofList (lead ++ c :: rest)) = true := by
  have hstarts : typeMarks.all (fun c => !isIdentifierStart c) = true := by decide
  have hcontinues : typeMarks.all (fun c => !isIdentifierContinue c) = true := by decide
  have hblank : isBlank c = false := by
    have hseparator := not_isSeparator_of_isIdentifierStart hc
    rw [isSeparator, Bool.or_eq_false_iff, Bool.or_eq_false_iff] at hseparator
    exact hseparator.1.1
  rw [isPlainText_iff, String.toList_ofList]
  refine ⟨⟨c, by simp, hblank⟩, fun d hmem => ?_⟩
  rcases List.mem_append.mp hmem with hmem | hmem
  · exact hlead d hmem
  · intro hmark
    rcases List.mem_cons.mp hmem with rfl | hmem
    · have hnot := List.all_eq_true.mp hstarts d hmark
      rw [hc] at hnot
      cases hnot
    · have hnot := List.all_eq_true.mp hcontinues d hmark
      rw [List.all_eq_true.mp hrest d hmem] at hnot
      cases hnot

theorem isPlainText_identifier {text : List Char} {found : List Char × List Char}
    (hread : identifier text = some found) : isPlainText (String.ofList found.1) = true := by
  have hcontinue (rest : List Char) :
      (rest.takeWhile isIdentifierContinue).all isIdentifierContinue = true := by simp
  have hraw : ∀ c ∈ ['r', '#'], c ∉ typeMarks := by simp [typeMarks]
  unfold identifier at hread
  split at hread
  · split_ifs at hread with hstart
    dsimp only at hread
    split_ifs at hread
    cases hread
    exact isPlainText_name ['r', '#'] hraw hstart (hcontinue _)
  · split_ifs at hread with hstart
    cases hread
    exact isPlainText_name [] nofun hstart (hcontinue _)
  · cases hread

theorem isPlain_of_leafToken {line : ℕ} {text : List Char} {found : Token × List Char}
    (hread : leafToken line text = some found) (hquiet : found.1.isQuiet = true) :
    found.1.isPlain = true := by
  have hapostrophe : punctuation.contains '\'' = true := by decide
  unfold leafToken at hread
  split at hread
  · next taken rest hscan =>
    cases hread
    obtain ⟨c, hmem, hc⟩ := Literal.exists_visible_of_scan hscan
    exact isPlainText_of_isQuiet ⟨c, by simpa using hmem, hc⟩ hquiet
  · split at hread
    · next hmark =>
      unfold punctuationMark startsPunctuation at hmark
      grind [Token.isPlain]
    · split_ifs at hread
      obtain ⟨⟨name, rest⟩, hname, rfl⟩ := Option.map_eq_some_iff.mp hread
      exact isPlainText_identifier hname

theorem isPlain_of_mem_documentation {inner : Bool} {content : List Char} {line : ℕ}
    {token : Token} (hmem : Lexeme.leaf token ∈ documentation inner content line)
    (hquiet : token.isQuiet = true) : token.isPlain = true := by
  have hdoc : isPlainText "doc" = true := by decide
  have hmarks : ['#', '!', '='].all punctuation.contains = true := by decide
  have hquote : isBlank '"' = false := by decide
  have hliteral (text : String) (hquiet : (Token.literal (stringLiteral text)).isQuiet = true) :
      isPlainText (stringLiteral text) = true :=
    isPlainText_of_isQuiet ⟨'"', by simp [stringLiteral], hquote⟩ hquiet
  unfold documentation at hmem
  grind [Token.isPlain]

theorem isPlain_of_readAll {fuel line : ℕ} {text : List Char} {lexemes : List Lexeme}
    (hread : readAll fuel line text = some lexemes) {token : Token}
    (hmem : Lexeme.leaf token ∈ lexemes) : token.isQuiet = true → token.isPlain = true :=
  forall_leaf_of_readAll (P := fun token => token.isQuiet = true → token.isPlain = true)
    (fun _ _ _ _ hmem => isPlain_of_mem_documentation hmem)
    (fun _ _ _ hleaf => isPlain_of_leafToken hleaf) hread token hmem

end Lexeme

/-- A text that is read as a type, with no colon, hyphen or bracket in its literals. -/
structure IsTypeText (text : String) (type : TypeExpr) : Prop where
  reads : typeOfText? text = some type
  quiet : hasQuietLiterals text = true

/-- Tokens that were read are plain when their literals are quiet. -/
theorem plain_of_readTokens {text : List Char} {tokens : List Token}
    (hread : readTokens text = some tokens)
    (hquiet : (atomsIn tokens).all Token.isQuiet = true) : Plain tokens := by
  intro atom hatom
  have hcollected := hatom
  rw [atomsIn_eq_flatMap] at hcollected
  obtain ⟨fuel, line, text, lexemes, token, hlexemes, hleaf, hmem⟩ :=
    exists_leaf_of_readTokens
      (fun delimiter content => by rw [Token.atoms, atomsIn_eq_flatMap]) hread hcollected
  have hplain := Lexeme.isPlain_of_readAll hlexemes hleaf
  cases token with
  | group delimiter content => exact absurd (hplain rfl) Bool.false_ne_true
  | _ =>
      rw [Token.atoms, List.mem_singleton] at hmem
      subst hmem
      exact hplain (List.all_eq_true.mp hquiet _ hatom)

/-- A type is balanced. -/
theorem IsTypeText.isBalanced {text : String} {type : TypeExpr} (htext : IsTypeText text type) :
    type.IsBalanced := by
  have hreads := htext.reads
  unfold typeOfText? at hreads
  split at hreads
  · next tokens htokens =>
    have hquiet := htext.quiet
    rw [hasQuietLiterals, htokens, Option.all_some] at hquiet
    have hplain := plain_of_readTokens htokens hquiet
    cases hread : readFullType tokens with
    | error fault =>
        rw [hread] at hreads
        cases hreads
    | ok found =>
        obtain ⟨found, rest⟩ := found
        rw [hread] at hreads
        cases rest with
        | nil =>
            cases hreads
            exact isBalanced_of_readType (eq_ok_of_checkConstants hread) hplain
        | cons first rest => cases hreads
  · cases hreads

end MarkedRoutes.Source
