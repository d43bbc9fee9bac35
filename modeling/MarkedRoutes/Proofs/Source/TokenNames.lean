import MarkedRoutes.Proofs.Source.Progress

/-!
# Names in token trees

The names that stand in a token tree, at any depth of brackets and without the marks of
raw identifiers.  Those in a text that was read are identifiers: an identifier lexeme is
a starting character with the longest run of continuing ones, and nesting by brackets
neither adds nor changes a leaf.
-/

namespace MarkedRoutes.Source

open MarkedRoutes.Text

mutual

def Token.names : Token → List String
  | .ident name _ => [unraw name]
  | .group _ content => namesIn content
  | _ => []

def namesIn : List Token → List String
  | [] => []
  | first :: rest => first.names ++ namesIn rest

end

attribute [simp, grind =] Token.names namesIn

theorem namesIn_eq_flatMap (tokens : List Token) : namesIn tokens = tokens.flatMap Token.names := by
  induction tokens with
  | nil => rfl
  | cons first rest ih => rw [namesIn, ih, List.flatMap_cons]

theorem mem_namesIn_iff {name : String} {tokens : List Token} :
    name ∈ namesIn tokens ↔ ∃ token ∈ tokens, name ∈ token.names := by
  rw [namesIn_eq_flatMap, List.mem_flatMap]

@[grind →]
theorem namesIn_subset {rest tokens : List Token} (hsubset : rest ⊆ tokens) :
    namesIn rest ⊆ namesIn tokens := by
  intro name hname
  obtain ⟨token, hmem, hname⟩ := mem_namesIn_iff.mp hname
  exact mem_namesIn_iff.mpr ⟨token, hsubset hmem, hname⟩

@[grind →]
theorem unraw_mem_namesIn {name : String} {line : ℕ} {tokens : List Token}
    (hmem : Token.ident name line ∈ tokens) : unraw name ∈ namesIn tokens :=
  mem_namesIn_iff.mpr ⟨_, hmem, by simp⟩

@[grind →]
theorem namesIn_content_subset {delimiter : Delimiter} {content tokens : List Token}
    (hmem : Token.group delimiter content ∈ tokens) : namesIn content ⊆ namesIn tokens := by
  intro name hname
  exact mem_namesIn_iff.mpr ⟨_, hmem, by simpa using hname⟩

/-! ### Names that were read -/

namespace Lexeme

/-- Without the mark of a raw identifier nothing is dropped. -/
theorem unraw_of_all_continue {c : Char} {rest : List Char}
    (hrest : rest.all isIdentifierContinue = true) :
    unraw (String.ofList (c :: rest)) = String.ofList (c :: rest) := by
  have hhash : isIdentifierContinue '#' = false := by decide
  unfold unraw
  split
  · next name hname =>
    rw [String.toList_ofList] at hname
    cases hname
    simp [hhash] at hrest
  · rfl

/-- An identifier that is read is one without its raw mark. -/
theorem isBareName_of_identifier {text : List Char} {found : List Char × List Char}
    (hread : identifier text = some found) :
    isBareName (unraw (String.ofList found.1)) = true := by
  have hcontinue (rest : List Char) :
      (rest.takeWhile isIdentifierContinue).all isIdentifierContinue = true := by simp
  unfold identifier at hread
  split at hread
  · split_ifs at hread with hstart
    dsimp only at hread
    split_ifs at hread
    cases hread
    simp [isBareName, unraw, isIdentifierText, hstart]
  · split_ifs at hread with hstart
    cases hread
    rw [unraw_of_all_continue (hcontinue _)]
    simp [isBareName, isIdentifierText, hstart]
  · cases hread

theorem isBareName_of_leafToken {line : ℕ} {text : List Char} {found : Token × List Char}
    (hread : leafToken line text = some found) :
    ∀ name ∈ found.1.names, isBareName name = true := by
  unfold leafToken punctuationMark at hread
  grind [→ isBareName_of_identifier, Option.map_eq_some_iff]

/-- What holds of the tokens that documentation stands for, and of those that are read as leaves,
holds of all leaves that were read. -/
theorem forall_leaf_of_readAll {P : Token → Prop}
    (hdocumentation : ∀ inner content line token,
      Lexeme.leaf token ∈ documentation inner content line → P token)
    (hleaf : ∀ line text found, leafToken line text = some found → P found.1)
    {fuel line : ℕ} {text : List Char} {lexemes : List Lexeme}
    (hread : readAll fuel line text = some lexemes) :
    ∀ token, Lexeme.leaf token ∈ lexemes → P token := by
  intro token hmem
  induction fuel generalizing line text lexemes with
  | zero => cases hread
  | succ fuel ih =>
      rw [readAll] at hread
      split at hread
      · cases hread
        cases hmem
      · split at hread
        · split_ifs at hread
          obtain ⟨others, hothers, rfl⟩ := Option.map_eq_some_iff.mp hread
          rcases List.mem_append.mp hmem with hmem | hmem
          · exact hdocumentation _ _ _ token hmem
          · exact ih hothers hmem
        · split at hread
          · next bracket hbracket =>
            obtain ⟨others, hothers, rfl⟩ := Option.map_eq_some_iff.mp hread
            unfold bracketOf at hbracket
            grind
          · split at hread
            · next leaf after hone =>
              obtain ⟨others, hothers, rfl⟩ := Option.map_eq_some_iff.mp hread
              rcases List.mem_cons.mp hmem with heq | hmem
              · cases heq
                exact hleaf _ _ _ hone
              · exact ih hothers hmem
            · cases hread

/-- The names of lexemes that were read are identifiers. -/
theorem isBareName_of_readAll {fuel line : ℕ} {text : List Char} {lexemes : List Lexeme}
    (hread : readAll fuel line text = some lexemes) {token : Token}
    (hmem : Lexeme.leaf token ∈ lexemes) : ∀ name ∈ token.names, isBareName name = true := by
  have hdoc : isBareName (unraw "doc") = true := by decide +kernel
  refine forall_leaf_of_readAll (P := fun token => ∀ name ∈ token.names, isBareName name = true)
    ?_ (fun _ _ _ => isBareName_of_leafToken) hread token hmem
  intro inner content line token hmem
  simp only [documentation] at hmem
  grind

/-- Nesting adds nothing to what is collected from tokens: it was read, or stood before. -/
theorem collected_of_nest {α : Type} {collect : Token → List α}
    (hgroup : ∀ delimiter content,
      collect (.group delimiter content) = content.flatMap collect)
    {value : α} {frames : List Frame} {done tokens : List Token} {lexemes : List Lexeme}
    (hnest : nest frames done lexemes = some tokens) (hvalue : value ∈ tokens.flatMap collect) :
    (∃ frame ∈ frames, value ∈ frame.2.flatMap collect) ∨ value ∈ done.flatMap collect ∨
      ∃ token, Lexeme.leaf token ∈ lexemes ∧ value ∈ collect token := by
  fun_induction nest frames done lexemes with
  | case1 frames done hempty =>
      cases hnest
      exact Or.inr (Or.inl (by simpa using hvalue))
  | case2 frames done hempty => cases hnest
  | case3 frames done leaf rest ih =>
      rcases ih hnest with hframe | hdone | ⟨token, hleaf, hmem⟩
      · exact Or.inl hframe
      · rcases List.mem_append.mp hdone with hmem | hdone
        · exact Or.inr (Or.inr ⟨leaf, List.mem_cons_self, hmem⟩)
        · exact Or.inr (Or.inl hdone)
      · exact Or.inr (Or.inr ⟨token, List.mem_cons_of_mem _ hleaf, hmem⟩)
  | case4 frames done delimiter rest ih =>
      rcases ih hnest with ⟨frame, hframe, hmem⟩ | hnone | ⟨token, hleaf, hmem⟩
      · rcases List.mem_cons.mp hframe with rfl | hframe
        · exact Or.inr (Or.inl hmem)
        · exact Or.inl ⟨frame, hframe, hmem⟩
      · cases hnone
      · exact Or.inr (Or.inr ⟨token, List.mem_cons_of_mem _ hleaf, hmem⟩)
  | case5 done rest delimiter before outer ih =>
      rcases ih hnest with ⟨frame, hframe, hmem⟩ | hdone | ⟨token, hleaf, hmem⟩
      · exact Or.inl ⟨frame, List.mem_cons_of_mem _ hframe, hmem⟩
      · rw [List.flatMap_cons, hgroup, List.mem_append] at hdone
        rcases hdone with hdone | hbefore
        · exact Or.inr (Or.inl (by simpa using hdone))
        · exact Or.inl ⟨_, List.mem_cons_self, hbefore⟩
      · exact Or.inr (Or.inr ⟨token, List.mem_cons_of_mem _ hleaf, hmem⟩)
  | case6 => cases hnest
  | case7 => cases hnest

end Lexeme

/-- What is collected from tokens that were read was read as a leaf. -/
theorem exists_leaf_of_readTokens {α : Type} {collect : Token → List α}
    (hgroup : ∀ delimiter content,
      collect (.group delimiter content) = content.flatMap collect)
    {value : α} {text : List Char} {tokens : List Token} (hread : readTokens text = some tokens)
    (hvalue : value ∈ tokens.flatMap collect) :
    ∃ fuel line text lexemes token, Lexeme.readAll fuel line text = some lexemes ∧
      Lexeme.leaf token ∈ lexemes ∧ value ∈ collect token := by
  rw [readTokens] at hread
  split at hread
  · next lexemes hlexemes =>
    rcases Lexeme.collected_of_nest hgroup hread hvalue with
      ⟨frame, hframe, -⟩ | hdone | ⟨token, hleaf, hmem⟩
    · cases hframe
    · cases hdone
    · exact ⟨_, _, _, lexemes, token, hlexemes, hleaf, hmem⟩
  · cases hread

/-- The names in a text that was read are identifiers. -/
theorem isBareName_of_readTokens {text : List Char} {tokens : List Token}
    (hread : readTokens text = some tokens) : ∀ name ∈ namesIn tokens, isBareName name = true := by
  intro name hname
  rw [namesIn_eq_flatMap] at hname
  obtain ⟨fuel, line, text, lexemes, token, hlexemes, hleaf, hmem⟩ :=
    exists_leaf_of_readTokens (fun _ content => namesIn_eq_flatMap content) hread hname
  exact Lexeme.isBareName_of_readAll hlexemes hleaf name hmem

end MarkedRoutes.Source
