import MarkedRoutes.Proofs.Source.Progress
import MarkedRoutes.Text.Split

/-!
# Comment lines in front of a text

Lines that are comments change nothing about what stands behind them but the lines that
its names are on.  Reading starts further down: every step of the lexer and the nesting
of brackets commute with moving names to later lines, and skipping passes over the comment
lines.
-/

namespace MarkedRoutes.Source

open MarkedRoutes.Text

/-! ### Later lines -/

mutual

/-- A token tree whose names stand some lines later. -/
def Token.later (lines : ℕ) : Token → Token
  | .ident name line => .ident name (line + lines)
  | .group delimiter content => .group delimiter (tokensLater lines content)
  | token => token

/-- Token trees whose names stand some lines later. -/
def tokensLater (lines : ℕ) : List Token → List Token
  | [] => []
  | first :: rest => first.later lines :: tokensLater lines rest

end

theorem tokensLater_eq_map (lines : ℕ) (tokens : List Token) :
    tokensLater lines tokens = tokens.map (Token.later lines) := by
  induction tokens with
  | nil => rfl
  | cons first rest ih => rw [tokensLater, ih, List.map_cons]

namespace Lexeme

/-- A lexeme whose name stands some lines later. -/
def later (lines : ℕ) : Lexeme → Lexeme
  | .leaf token => .leaf (token.later lines)
  | bracket => bracket

theorem skipBlanks_later (lines fuel line : ℕ) (text : List Char) :
    skipBlanks fuel (line + lines) text =
      ((skipBlanks fuel line text).1 + lines, (skipBlanks fuel line text).2) := by
  fun_induction skipBlanks fuel line text <;> grind [skipBlanks]

theorem documentation_later (lines line : ℕ) (inner : Bool) (content : List Char) :
    documentation inner content (line + lines) =
      (documentation inner content line).map (later lines) := by
  cases inner <;> simp [documentation, later, Token.later]

theorem punctuationMark_later (lines : ℕ) {text : List Char} {found : Token × List Char}
    (hread : punctuationMark text = some found) : found.1.later lines = found.1 := by
  unfold punctuationMark at hread
  grind [Token.later]

theorem leafToken_later (lines line : ℕ) (text : List Char) :
    leafToken (line + lines) text =
      (leafToken line text).map fun found => (found.1.later lines, found.2) := by
  unfold leafToken
  split
  · simp [Token.later]
  · split
    · next found hmark =>
      simp [punctuationMark_later lines hmark]
    · split_ifs
      · rfl
      · cases identifier text <;> simp [Token.later]

theorem linesWithin_later (lines : ℕ) (token : Token) :
    linesWithin (token.later lines) = linesWithin token := by
  cases token <;> simp [Token.later, linesWithin]

theorem readAll_later (lines fuel line : ℕ) (text : List Char) :
    readAll fuel (line + lines) text =
      (readAll fuel line text).map (List.map (later lines)) := by
  induction fuel generalizing line text with
  | zero => rfl
  | succ fuel ih =>
      rw [readAll, readAll, skipBlanks_later]
      rcases skipBlanks (text.length + 1) line text with ⟨next, kept⟩
      cases kept with
      | nil => rfl
      | cons c rest =>
          dsimp only
          cases documentationComment (c :: rest) with
          | some comment =>
              obtain ⟨inner, content, after⟩ := comment
              dsimp only
              split_ifs
              · rw [Nat.add_right_comm, ih, documentation_later]
                simp [Function.comp_def]
              · rfl
          | none =>
              dsimp only
              cases hbracket : bracketOf c with
              | some bracket =>
                  have hlater : bracket.later lines = bracket := by
                    unfold bracketOf at hbracket
                    grind [later]
                  dsimp only
                  rw [ih]
                  simp [Function.comp_def, hlater]
              | none =>
                  dsimp only
                  rw [leafToken_later]
                  cases leafToken next (c :: rest) with
                  | some found =>
                      obtain ⟨token, after⟩ := found
                      simp only [Option.map_some]
                      rw [linesWithin_later, Nat.add_right_comm, ih]
                      simp [Function.comp_def, later]
                  | none => rfl

/-- A frame whose names stand some lines later. -/
def Frame.later (lines : ℕ) (frame : Frame) : Frame := (frame.1, tokensLater lines frame.2)

theorem nest_later (lines : ℕ) (frames : List Frame) (done : List Token) (lexemes : List Lexeme) :
    nest (frames.map (Frame.later lines)) (tokensLater lines done) (lexemes.map (later lines)) =
      (nest frames done lexemes).map (tokensLater lines) := by
  have hreverse (tokens : List Token) :
      (tokensLater lines tokens).reverse = tokensLater lines tokens.reverse := by
    simp [tokensLater_eq_map]
  fun_induction nest frames done lexemes with
  | case1 frames done hempty => simp [nest, hreverse, hempty]
  | case2 frames done hempty => simp [nest, hempty]
  | case3 frames done leaf rest ih => exact ih
  | case4 frames done delimiter rest ih => exact ih
  | case5 done rest delimiter before outer ih => 
      simpa [nest, later, Frame.later, tokensLater, Token.later, hreverse] using ih
  | case6 => simp_all [nest, later, Frame.later]
  | case7 => rfl

end Lexeme

/-! ### Comment lines -/

/-- A comment that documents nothing and ends with its line. -/
def IsCommentLine (line : String) : Prop :=
  Lexeme.isPlainLineComment line.toList = true ∧ '\n' ∉ line.toList

instance (line : String) : Decidable (IsCommentLine line) :=
  inferInstanceAs (Decidable (_ ∧ _))

/-- Lines of text, each with its line feed. -/
def withLineFeeds (lines : List String) : List Char :=
  lines.flatMap fun line => line.toList ++ ['\n']

theorem toList_joinTexts (lines : List String) (text : String) :
    (joinTexts "\n" (lines ++ [text])).toList = withLineFeeds lines ++ text.toList := by
  induction lines with
  | nil => simp [joinTexts, join, withLineFeeds]
  | cons first lines ih =>
      have hmore : ∃ second more, lines ++ [text] = second :: more := by
        cases lines <;> simp
      obtain ⟨second, more, hmore⟩ := hmore
      rw [List.cons_append, hmore]
      rw [hmore] at ih
      simpa [joinTexts, join, withLineFeeds] using ih

theorem toList_joinTexts_empty (lines : List String) (text : String) :
    (joinTexts "\n" (lines ++ ["", text])).toList = withLineFeeds lines ++ '\n' :: text.toList := by
  rw [List.append_cons, toList_joinTexts]
  simp [withLineFeeds]

namespace Lexeme

theorem isPlainLineComment_append {line : List Char} (hcomment : isPlainLineComment line = true)
    (rest : List Char) : isPlainLineComment (line ++ '\n' :: rest) = true := by
  unfold isPlainLineComment at hcomment
  split at hcomment
  · rfl
  · cases hcomment
  · cases hcomment
  · next tail _ hslash hbang =>
    cases tail with
    | nil => rfl
    | cons c tail =>
      have hnoSlash : c ≠ '/' := fun heq => hslash tail (by rw [heq])
      have hnoBang : c ≠ '!' := fun heq => hbang tail (by rw [heq])
      simp [isPlainLineComment, hnoSlash, hnoBang]
  · cases hcomment

theorem skipBlanks_lineFeed (fuel line : ℕ) (rest : List Char) :
    skipBlanks (fuel + 1) line ('\n' :: rest) = skipBlanks fuel (line + 1) rest := by
  rw [skipBlanks]
  rfl

theorem skipBlanks_comment {comment : String} (hcomment : IsCommentLine comment)
    (fuel line : ℕ) (rest : List Char) :
    skipBlanks (fuel + 2) line (comment.toList ++ '\n' :: rest) =
      skipBlanks fuel (line + 1) rest := by
  obtain ⟨hplain, hline⟩ := hcomment
  have happend := isPlainLineComment_append hplain rest
  cases htext : comment.toList with
  | nil =>
      rw [htext] at hplain
      cases hplain
  | cons c text =>
      rw [htext, List.cons_append] at happend
      have hend : ∀ d ∈ text, (d != '\n') = true := by
        grind
      rw [List.cons_append, skipBlanks, if_pos happend, List.dropWhile_append_of_pos hend]
      exact skipBlanks_lineFeed fuel line rest

/-- Skipping passes over comment lines. -/
theorem skipBlanks_comments {comments : List String}
    (hcomments : ∀ comment ∈ comments, IsCommentLine comment) (fuel line : ℕ)
    (rest : List Char) :
    skipBlanks (fuel + 2 * comments.length) line (withLineFeeds comments ++ rest) =
      skipBlanks fuel (line + comments.length) rest := by
  induction comments generalizing line with
  | nil => rfl
  | cons first comments ih =>
      rw [List.forall_mem_cons] at hcomments
      rw [withLineFeeds, List.flatMap_cons, List.length_cons, List.append_assoc, List.append_assoc]
      rw [← withLineFeeds, Nat.mul_add, ← Nat.add_assoc]
      rw [List.singleton_append, skipBlanks_comment hcomments.1, ih hcomments.2]
      rw [Nat.add_assoc, Nat.add_comm 1]

end Lexeme

theorem IsCommentLine.exists_toList {line : String} (hline : IsCommentLine line) :
    ∃ rest, line.toList = '/' :: rest := by
  have hplain := hline.1
  unfold Lexeme.isPlainLineComment at hplain
  grind

theorem exists_withLineFeeds {comments : List String}
    (hcomments : ∀ comment ∈ comments, IsCommentLine comment) (hne : comments ≠ []) :
    ∃ rest, withLineFeeds comments = '/' :: rest := by
  cases comments with
  | nil => exact absurd rfl hne
  | cons first comments =>
      obtain ⟨rest, hrest⟩ := (hcomments first List.mem_cons_self).exists_toList
      rw [withLineFeeds, List.flatMap_cons, hrest]
      exact ⟨_, rfl⟩

/-- Comment lines and an empty one begin with no byte order mark. -/
theorem dropByteOrderMark_comments {comments : List String}
    (hcomments : ∀ comment ∈ comments, IsCommentLine comment) (text : List Char) :
    dropByteOrderMark (withLineFeeds comments ++ '\n' :: text) =
      withLineFeeds comments ++ '\n' :: text := by
  by_cases hempty : comments = []
  · rw [hempty]
    rfl
  · obtain ⟨rest, hrest⟩ := exists_withLineFeeds hcomments hempty
    rw [hrest]
    rfl

theorem length_withLineFeeds {comments : List String}
    (hcomments : ∀ comment ∈ comments, IsCommentLine comment) :
    2 * comments.length ≤ (withLineFeeds comments).length := by
  induction comments with
  | nil => exact Nat.le_refl 0
  | cons first comments ih =>
      rw [List.forall_mem_cons] at hcomments
      obtain ⟨rest, hrest⟩ := hcomments.1.exists_toList
      have hlength := ih hcomments.2
      rw [withLineFeeds, List.flatMap_cons, ← withLineFeeds, hrest]
      simp only [List.length_append, List.length_cons]
      omega

/-- The lexemes behind comment lines and an empty one are those of the text alone. -/
theorem Lexeme.readAll_comments {comments : List String}
    (hcomments : ∀ comment ∈ comments, IsCommentLine comment) (line : ℕ) (text : List Char) :
    readAll ((withLineFeeds comments ++ '\n' :: text).length + 1) line
        (withLineFeeds comments ++ '\n' :: text) =
      readAll (text.length + 1) (line + (comments.length + 1)) text := by
  have hlength : (withLineFeeds comments ++ '\n' :: text).length =
      (withLineFeeds comments).length + (text.length + 1) := by
    rw [List.length_append, List.length_cons]
  obtain ⟨fuel, hfuel⟩ := Nat.exists_eq_add_of_le' (length_withLineFeeds hcomments)
  have hskip : skipBlanks ((withLineFeeds comments ++ '\n' :: text).length + 1) line
        (withLineFeeds comments ++ '\n' :: text) =
      skipBlanks (text.length + 1) (line + (comments.length + 1)) text := by
    have hsplit : (withLineFeeds comments).length + (text.length + 1) + 1 =
        (fuel + (text.length + 1)) + 1 + 2 * comments.length := by omega
    rw [hlength, hsplit, skipBlanks_comments hcomments, skipBlanks_lineFeed, Nat.add_assoc]
    exact skipBlanks_fuel (by omega) (by omega)
  calc readAll ((withLineFeeds comments ++ '\n' :: text).length + 1) line
        (withLineFeeds comments ++ '\n' :: text)
    _ = readAll ((withLineFeeds comments ++ '\n' :: text).length + 1)
          (line + (comments.length + 1)) text := by
        rw [readAll, readAll, hskip]
    _ = readAll (text.length + 1) (line + (comments.length + 1)) text := by
        rw [hlength]
        exact readAll_fuel (by omega) (by omega)

/-- Behind comment lines and an empty one a text reads as it does alone, further down. -/
theorem readTokens_comments {comments : List String}
    (hcomments : ∀ comment ∈ comments, IsCommentLine comment) {text : String}
    (htext : dropByteOrderMark text.toList = text.toList) :
    readTokens (joinTexts "\n" (comments ++ ["", text])).toList =
      (readTokens text.toList).map (tokensLater (comments.length + 1)) := by
  rw [toList_joinTexts_empty, readTokens, readTokens, dropByteOrderMark_comments hcomments, htext]
  rw [Lexeme.readAll_comments hcomments, Lexeme.readAll_later]
  cases Lexeme.readAll (text.toList.length + 1) 1 text.toList with
  | none => rfl
  | some lexemes => exact Lexeme.nest_later _ [] [] lexemes

end MarkedRoutes.Source
