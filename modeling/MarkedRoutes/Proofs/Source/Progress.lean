import MarkedRoutes.Source.Lexer
import Mathlib.Data.List.TakeWhile

/-!
# Scanners take characters

Every scanner that finds something takes at least one character, so the text behind what
it found is shorter.  Hence the fuel of the lexer does not matter once it exceeds the
length of the text.
-/

namespace MarkedRoutes.Source

open MarkedRoutes.Text

/-! ### Literals -/

namespace Literal

variable {text rest taken : List Char} {found : List Char × List Char}
  {valued : List Char × List Char × List Char}

theorem length_bracedDigits {value count : ℕ} {digits : ℕ × List Char × List Char}
    (hread : bracedDigits value count text = some digits) :
    digits.2.2.length < text.length := by
  fun_induction bracedDigits value count text generalizing digits <;>
    grind [Option.map_eq_some_iff]

theorem length_escape {bytes : Bool} {escaped : Char × List Char × List Char}
    (hread : escape bytes text = some escaped) : escaped.2.2.length < text.length := by
  unfold escape at hread
  grind [→ length_bracedDigits, Option.map_eq_some_iff]

theorem length_quotedRest {bytes : Bool} {fuel : ℕ}
    (hread : quotedRest bytes fuel text = some valued) : valued.2.2.length < text.length := by
  fun_induction quotedRest bytes fuel text generalizing valued <;>
    grind [List.length_dropWhile_le, → length_escape, Option.map_eq_some_iff]

theorem length_dropText {expected : List Char} (hread : dropText expected text = some rest) :
    rest.length ≤ text.length := by
  fun_induction dropText expected text <;> grind

theorem length_rawRest {hashes : List Char} (hread : rawRest hashes text = some valued) :
    valued.2.2.length < text.length := by
  fun_induction rawRest hashes text generalizing valued <;>
    grind [→ length_dropText, Option.map_eq_some_iff]

theorem length_stringBody {raw bytes : Bool} (hread : stringBody raw bytes text = some valued) :
    valued.2.2.length < text.length := by
  unfold stringBody at hread
  grind [List.length_dropWhile_le, → length_rawRest, → length_quotedRest, Option.map_eq_some_iff]

theorem length_withSuffix (taken rest : List Char) :
    (withSuffix taken rest).2.length ≤ rest.length := by
  unfold withSuffix
  grind [List.length_dropWhile_le]

theorem length_stringOf {lead : List Char} {raw bytes : Bool}
    (hread : stringOf lead raw bytes text = some found) : found.2.length < text.length := by
  obtain ⟨⟨value, taken, rest⟩, hbody, rfl⟩ := Option.map_eq_some_iff.mp hread
  exact Nat.lt_of_le_of_lt (length_withSuffix _ rest) (length_stringBody hbody)

theorem length_characterRest {bytes : Bool} (hread : characterRest bytes text = some found) :
    found.2.length < text.length := by
  unfold characterRest at hread
  grind [→ length_escape]

theorem length_exponent (hread : exponent text = some found) :
    found.2.length ≤ text.length := by
  unfold exponent at hread
  grind [List.length_dropWhile_le]

theorem length_decimal {isDigitMark : Char → Bool}
    (hread : number.decimal isDigitMark text = some found) :
    found.2.length ≤ (text.dropWhile isDigitMark).length := by
  unfold number.decimal at hread
  grind [List.length_dropWhile_le, → length_exponent, length_withSuffix]

/-- A number that begins with a digit takes it. -/
theorem length_decimal_digit {c : Char} (hdigit : c.isDigit = true)
    (hread : number.decimal (fun c => c.isDigit || c == '_') (c :: rest) = some found) :
    found.2.length < (c :: rest).length := by
  have hdecimal := length_decimal hread
  rw [List.dropWhile_cons_of_pos (by simp [hdigit])] at hdecimal
  have hshort := List.length_dropWhile_le (fun c => c.isDigit || c == '_') rest
  rw [List.length_cons]
  omega

theorem length_number (hread : number text = some found) : found.2.length < text.length := by
  unfold number at hread
  split at hread
  · dsimp only at hread
    split_ifs at hread
    · cases hread
      grind [List.length_dropWhile_le]
    · exact length_decimal_digit (by decide) hread
  · split_ifs at hread with hdigit
    exact length_decimal_digit hdigit hread
  · cases hread

/-- A literal takes characters. -/
theorem length_scan (hread : scan text = some found) : found.2.length < text.length := by
  unfold scan at hread
  grind [→ length_stringOf, → length_characterRest, → length_number, length_withSuffix,
    Option.map_eq_some_iff]

end Literal

/-! ### Lexemes -/

namespace Lexeme

variable {text : List Char}

theorem length_blockComment {depth : ℕ} {found : List Char × List Char}
    (hread : blockComment depth text = some found) : found.2.length < text.length := by
  fun_induction blockComment depth text generalizing found <;> grind [Option.map_eq_some_iff]

theorem length_skipBlanks (fuel line : ℕ) (text : List Char) :
    (skipBlanks fuel line text).2.length ≤ text.length := by
  fun_induction skipBlanks fuel line text <;>
    grind [List.length_dropWhile_le, → length_blockComment]

theorem length_documentationComment {comment : Bool × List Char × List Char}
    (hread : documentationComment text = some comment) :
    comment.2.2.length < text.length := by
  unfold documentationComment documentationComment.line documentationComment.block at hread
  grind [List.length_dropWhile_le, → length_blockComment, Option.map_eq_some_iff]

theorem length_identifier {found : List Char × List Char}
    (hread : identifier text = some found) : found.2.length < text.length := by
  unfold identifier at hread
  grind [List.length_dropWhile_le]

theorem length_punctuationMark {found : Token × List Char}
    (hread : punctuationMark text = some found) : found.2.length < text.length := by
  unfold punctuationMark at hread
  grind

theorem length_leafToken {line : ℕ} {found : Token × List Char}
    (hread : leafToken line text = some found) : found.2.length < text.length := by
  unfold leafToken at hread
  grind [→ length_identifier, → length_punctuationMark, → Literal.length_scan,
    Option.map_eq_some_iff]

/-! ### Fuel -/

theorem skipBlanks_fuel {fuel more line : ℕ} (hfuel : text.length < fuel)
    (hmore : text.length < more) : skipBlanks fuel line text = skipBlanks more line text := by
  induction fuel generalizing more line text with
  | zero => cases hfuel
  | succ fuel ih =>
      cases more with
      | zero => cases hmore
      | succ more =>
          cases text with
          | nil => rfl
          | cons c rest =>
              rw [skipBlanks, skipBlanks]
              grind [List.length_dropWhile_le, → length_blockComment]

theorem readAll_fuel {fuel more line : ℕ} (hfuel : text.length < fuel)
    (hmore : text.length < more) : readAll fuel line text = readAll more line text := by
  induction fuel generalizing more line text with
  | zero => cases hfuel
  | succ fuel ih =>
      cases more with
      | zero => cases hmore
      | succ more =>
          have hkept := length_skipBlanks (text.length + 1) line text
          rw [readAll, readAll]
          split
          · rfl
          · next next c rest hskip =>
            rw [hskip, List.length_cons] at hkept
            have hread (line : ℕ) {after : List Char} (hafter : after.length < rest.length + 1) :
                readAll fuel line after = readAll more line after :=
              ih (by omega) (by omega)
            split
            · next inner content after hcomment =>
              rw [hread _ (length_documentationComment hcomment)]
            · split
              · rw [hread _ (Nat.lt_succ_self _)]
              · split
                · next token after hleaf => rw [hread _ (length_leafToken hleaf)]
                · rfl

end Lexeme

end MarkedRoutes.Source
