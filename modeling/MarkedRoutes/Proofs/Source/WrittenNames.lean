import MarkedRoutes.Proofs.Discovery.Mounted
import MarkedRoutes.Proofs.Resolution.PathText
import MarkedRoutes.Proofs.Source.WordEnds

/-!
# Reading written names

Names that are written with `::` between them are read as just these tokens, keywords included:
no character of a name can begin or continue a blank, a comment, a literal or punctuation.  The
grammar of paths then takes every name but a keyword, and besides the words of the module tree it
takes `try`.
-/

namespace MarkedRoutes.Source

open MarkedRoutes.Text

/-! ### Names in front of colons -/

section Lexing

variable {name rest : List Char} {line : ℕ}

/-- What may stand behind a name in a path: nothing, or a colon. -/
def EndsName (rest : List Char) : Prop := ∀ c ∈ rest.head?, c = ':'

theorem endsName_nil : EndsName [] := by
  intro c hc
  cases hc

theorem endsName_colon (rest : List Char) : EndsName (':' :: rest) :=
  fun _ hc => (Option.some.inj hc).symm

theorem EndsName.stops (hrest : EndsName rest) : Literal.Stops rest := by
  intro c hc
  rw [hrest c hc]
  decide

theorem EndsName.notMem_literalMarks (hrest : EndsName rest) :
    ∀ c ∈ rest.head?, c ∉ literalMarks := by
  intro c hc
  rw [hrest c hc]
  decide

theorem exists_isName_of_isIdentifierText (hname : isIdentifierText name = true) :
    ∃ first tail, name = first :: tail ∧ IsName first tail := by
  cases name with
  | nil => cases hname
  | cons first tail =>
      rw [isIdentifierText, Bool.and_eq_true, List.all_eq_true] at hname
      exact ⟨first, tail, rfl, ⟨hname.1, hname.2⟩⟩

theorem dropText_eq_some {expected text after : List Char}
    (hdrop : Literal.dropText expected text = some after) : text = expected ++ after := by
  fun_induction Literal.dropText expected text with
  | case1 text => exact Option.some.inj hdrop
  | case2 => cases hdrop
  | case3 expected more rest ih => rw [ih hdrop, List.cons_append]
  | case4 => cases hdrop

/-- A literal opens with one of the marks, perhaps behind a few letters. -/
theorem exists_letters_of_mem_literalOpenings {opening : List Char}
    (hopening : opening ∈ Lexeme.literalOpenings) :
    ∃ letters ∈ literalLetters, ∃ mark ∈ literalMarks, letters ++ [mark] <+: opening := by
  have hopenings : (Lexeme.literalOpenings.all fun opening => literalLetters.any fun letters =>
      literalMarks.any fun mark => (letters ++ [mark]).isPrefixOf opening) = true := by
    decide +kernel
  simpa only [List.any_eq_true, List.isPrefixOf_iff_prefix] using
    List.all_eq_true.mp hopenings opening hopening

/-- A name is no punctuation. -/
theorem startsPunctuation_name (hname : isIdentifierText name = true) :
    Lexeme.startsPunctuation (name ++ rest) = false := by
  have hmarks : (Lexeme.punctuation.all fun c => !isIdentifierStart c) = true := by cbv
  obtain ⟨first, tail, rfl, hfirst⟩ := exists_isName_of_isIdentifierText hname
  rw [List.cons_append, Lexeme.startsPunctuation.eq_def]
  split
  · rfl
  · rfl
  · next htext =>
    obtain ⟨rfl, -⟩ := List.cons.inj htext
    rw [Bool.eq_false_iff, ne_eq, List.contains_iff_mem]
    intro hmem
    have hother := List.all_eq_true.mp hmarks _ hmem
    rw [hfirst.start] at hother
    cases hother
  · rfl

/-- A name in front of a colon, or at the end, is read as one token. -/
theorem leafToken_name (hname : isIdentifierText name = true) (hrest : EndsName rest) :
    Lexeme.leafToken line (name ++ rest) = some (.ident (String.ofList name) line, rest) := by
  have hmark : Lexeme.punctuationMark (name ++ rest) = none := by
    rw [Lexeme.punctuationMark.eq_def, startsPunctuation_name hname]
    rfl
  obtain ⟨first, tail, htext, hfirst⟩ := exists_isName_of_isIdentifierText hname
  have hmarks : name ∈ literalLetters → ∀ c ∈ rest.head?, c ∉ literalMarks :=
    fun _ => hrest.notMem_literalMarks
  have hopenings : (Lexeme.literalOpenings.any fun opening =>
      (Literal.dropText opening (name ++ rest)).isSome) = false := by
    rw [List.any_eq_false]
    intro opening hmem hdrop
    obtain ⟨after, hafter⟩ := Option.isSome_iff_exists.mp hdrop
    obtain ⟨letters, hletters, mark, hmark, more, rfl⟩ :=
      exists_letters_of_mem_literalOpenings hmem
    have hbegins : name ++ rest = letters ++ mark :: (more ++ after) := by
      rw [dropText_eq_some hafter, List.append_assoc, List.append_assoc, List.singleton_append]
    exact hfirst.ne_letters hrest.stops hmarks htext letters (.inr hletters) hmark hbegins
  have hword : Lexeme.identifier name = some (name, []) := htext ▸ hfirst.identifier_eq
  rw [Lexeme.leafToken, scan_word hrest.stops hmarks hword, hmark, hopenings,
    identifier_append hrest.stops hmarks hword]
  rfl

/-! ### Lexemes -/

def BeginsToken (c : Char) : Prop := isIdentifierStart c = true ∨ c = ':'

theorem BeginsToken.ne {c other : Char} (hc : BeginsToken c)
    (hother : isIdentifierStart other = false ∧ other ≠ ':') : c ≠ other := by
  rintro rfl
  rcases hc with hstart | hcolon
  · rw [hother.1] at hstart
    cases hstart
  · exact hother.2 hcolon

theorem BeginsToken.not_isSeparator {c : Char} (hc : BeginsToken c) :
    Lexeme.isSeparator c = false := by
  rcases hc with hstart | rfl
  · exact not_isSeparator_of_isIdentifierStart hstart
  · decide

theorem BeginsToken.bracketOf_eq {c : Char} (hc : BeginsToken c) : Lexeme.bracketOf c = none := by
  have hround : c ≠ '(' ∧ c ≠ ')' := ⟨hc.ne (by decide), hc.ne (by decide)⟩
  have hsquare : c ≠ '[' ∧ c ≠ ']' := ⟨hc.ne (by decide), hc.ne (by decide)⟩
  have hcurly : c ≠ '\x7b' ∧ c ≠ '\x7d' := ⟨hc.ne (by decide), hc.ne (by decide)⟩
  simp [Lexeme.bracketOf, hround, hsquare, hcurly]

/-- A token of a path is the first lexeme of a text that begins with it. -/
theorem readAll_leaf {c : Char} {fuel : ℕ} {text after : List Char} {token : Token}
    (hc : BeginsToken c) (hleaf : Lexeme.leafToken line (c :: text) = some (token, after))
    (hlines : Lexeme.linesWithin token = 0) :
    Lexeme.readAll (fuel + 1) line (c :: text) =
      (Lexeme.readAll fuel line after).map fun lexemes => .leaf token :: lexemes := by
  have hslash : c ≠ '/' := hc.ne (by decide)
  have hskip : Lexeme.skipBlanks ((c :: text).length + 1) line (c :: text) =
      (line, c :: text) := by
    have hline : Lexeme.isPlainLineComment (c :: text) = false := by
      simp [Lexeme.isPlainLineComment, hslash]
    have hblock : Lexeme.isPlainBlockComment (c :: text) = false := by
      simp [Lexeme.isPlainBlockComment, hslash]
    rw [Lexeme.skipBlanks, hline, hblock, hc.not_isSeparator]
    rfl
  have hdocumentation : Lexeme.documentationComment (c :: text) = none := by
    simp [Lexeme.documentationComment, hslash]
  rw [Lexeme.readAll, hskip]
  dsimp only
  rw [hdocumentation, hc.bracketOf_eq]
  dsimp only
  rw [hleaf]
  dsimp only
  rw [hlines, Nat.add_zero]

theorem leafToken_colon (line : ℕ) (rest : List Char) :
    Lexeme.leafToken line (':' :: rest) =
      some (.punct ':' (Lexeme.startsPunctuation rest), rest) := rfl

end Lexing

def joinedNameTokens (line : ℕ) (names : List String) : List Token :=
  (operator [':', ':']).intercalate (names.map fun name => [.ident name line])

/-- The tokens of a path, which may have `::` in front of its names. -/
def pathNameTokens (line : ℕ) (rooted : Bool) (names : List String) : List Token :=
  (if rooted then operator [':', ':'] else []) ++ joinedNameTokens line names

theorem joinedNameTokens_cons_cons (line : ℕ) (first second : String) (names : List String) :
    joinedNameTokens line (first :: second :: names) =
      .ident first line :: .punct ':' true :: .punct ':' false ::
        joinedNameTokens line (second :: names) := by
  simp [joinedNameTokens, operator]

section Paths

variable {line : ℕ} {names : List String}

/-- The text of names with `::` between them begins with a name. -/
theorem exists_join_eq (first : String) (names : List String) :
    ∃ rest, EndsName rest ∧
      join [':', ':'] ((first :: names).map String.toList) = first.toList ++ rest := by
  cases names with
  | nil => exact ⟨[], endsName_nil, (List.append_nil _).symm⟩
  | cons second names => exact ⟨_, endsName_colon _, rfl⟩

/-- A name that is followed by nothing or a colon is the first lexeme. -/
theorem readAll_name {name : String} {rest : List Char} (hname : isBareName name = true)
    (hrest : EndsName rest) (fuel : ℕ) :
    Lexeme.readAll (fuel + 1) line (name.toList ++ rest) =
      (Lexeme.readAll fuel line rest).map fun lexemes => .leaf (.ident name line) :: lexemes := by
  have hleaf : Lexeme.leafToken line (name.toList ++ rest) =
      some (.ident (String.ofList name.toList) line, rest) := leafToken_name hname hrest
  rw [String.ofList_toList] at hleaf
  obtain ⟨first, tail, hchars, hfirst⟩ := exists_isName_of_isIdentifierText hname
  rw [hchars] at hleaf ⊢
  exact readAll_leaf (Or.inl hfirst.start) hleaf rfl

/-- Two colons in front of a name are two lexemes, the first joined to the second. -/
theorem readAll_colons {rest : List Char} (hrest : Lexeme.startsPunctuation rest = false)
    (fuel : ℕ) :
    Lexeme.readAll (fuel + 2) line (':' :: ':' :: rest) =
      (Lexeme.readAll fuel line rest).map fun lexemes =>
        .leaf (.punct ':' true) :: .leaf (.punct ':' false) :: lexemes := by
  have hsecond := leafToken_colon line rest
  rw [hrest] at hsecond
  rw [readAll_leaf (Or.inr rfl) (leafToken_colon line (':' :: rest)) rfl,
    readAll_leaf (Or.inr rfl) hsecond rfl, Option.map_map]
  rfl

theorem startsPunctuation_names {first : String} (hfirst : isBareName first = true)
    (names : List String) :
    Lexeme.startsPunctuation (join [':', ':'] ((first :: names).map String.toList)) = false := by
  obtain ⟨rest, -, htext⟩ := exists_join_eq first names
  rw [htext]
  exact startsPunctuation_name hfirst

/-- Names are read as their tokens. -/
theorem readAll_names (hne : names ≠ []) (hnames : ∀ name ∈ names, isBareName name = true)
    {fuel : ℕ} (hfuel : (join [':', ':'] (names.map String.toList)).length < fuel) :
    Lexeme.readAll fuel line (join [':', ':'] (names.map String.toList)) =
      some ((joinedNameTokens line names).map .leaf) := by
  induction names generalizing fuel with
  | nil => exact absurd rfl hne
  | cons first names ih =>
      obtain ⟨hfirst, hmore⟩ := List.forall_mem_cons.mp hnames
      have hlength : 0 < first.toList.length := by
        rw [List.length_pos_iff]
        rintro hempty
        rw [isBareName, hempty] at hfirst
        cases hfirst
      cases names with
      | nil =>
          have htext : join [':', ':'] ([first].map String.toList) = first.toList ++ [] :=
            (List.append_nil _).symm
          rw [htext, List.append_nil] at hfuel
          obtain ⟨fuel, rfl⟩ : ∃ less, fuel = less + 2 := Nat.exists_eq_add_of_le' (by omega)
          rw [htext, readAll_name hfirst endsName_nil]
          rfl
      | cons second names =>
          have htext : join [':', ':'] ((first :: second :: names).map String.toList) =
              first.toList ++ ':' :: ':' :: join [':', ':'] ((second :: names).map String.toList) :=
            rfl
          rw [htext, List.length_append, List.length_cons, List.length_cons] at hfuel
          obtain ⟨fuel, rfl⟩ : ∃ less, fuel = less + 3 := Nat.exists_eq_add_of_le' (by omega)
          rw [htext, readAll_name hfirst (endsName_colon _),
            readAll_colons (startsPunctuation_names (hmore second List.mem_cons_self) names),
            ih (List.cons_ne_nil _ _) hmore (by omega), joinedNameTokens_cons_cons]
          rfl

theorem nest_leaves (done tokens : List Token) :
    Lexeme.nest [] done (tokens.map .leaf) = some (done.reverse ++ tokens) := by
  induction tokens generalizing done with
  | nil => rw [List.append_nil]; rfl
  | cons token tokens ih =>
      rw [List.map_cons, Lexeme.nest, ih, List.reverse_cons, List.append_assoc,
        List.singleton_append]

/-- A path as it is written: its names with `::` between them, and perhaps in front. -/
def pathText (rooted : Bool) (names : List String) : String :=
  String.ofList ((if rooted then [':', ':'] else []) ++ join [':', ':'] (names.map String.toList))

/-- A path begins with a name or a colon. -/
theorem exists_pathText_eq (rooted : Bool) (hne : names ≠ [])
    (hnames : ∀ name ∈ names, isBareName name = true) :
    ∃ c rest, BeginsToken c ∧ (pathText rooted names).toList = c :: rest := by
  obtain ⟨first, names, rfl⟩ := List.exists_cons_of_ne_nil hne
  have hfirst := hnames first List.mem_cons_self
  rw [pathText, String.toList_ofList]
  cases rooted with
  | true => exact ⟨':', _, Or.inr rfl, rfl⟩
  | false =>
      obtain ⟨rest, -, htext⟩ := exists_join_eq first names
      obtain ⟨c, tail, hchars, hname⟩ := exists_isName_of_isIdentifierText hfirst
      rw [htext, hchars]
      exact ⟨c, tail ++ rest, Or.inl hname.start, rfl⟩

/-- A path of names is read as its tokens. -/
theorem readTokens_pathText (rooted : Bool) (hne : names ≠ [])
    (hnames : ∀ name ∈ names, isBareName name = true) :
    readTokens (pathText rooted names).toList = some (pathNameTokens 1 rooted names) := by
  have hmark : dropByteOrderMark (pathText rooted names).toList =
      (pathText rooted names).toList := by
    obtain ⟨c, rest, hc, htext⟩ := exists_pathText_eq rooted hne hnames
    have hother : isIdentifierStart '\ufeff' = false ∧ '\ufeff' ≠ ':' := by decide +kernel
    have hc := hc.ne hother
    rw [htext, dropByteOrderMark.eq_def]
    split
    · next heq => exact absurd (List.cons.inj heq).1 hc
    · rfl
  have hlexemes : Lexeme.readAll ((pathText rooted names).toList.length + 1) 1
      (pathText rooted names).toList = some ((pathNameTokens 1 rooted names).map .leaf) := by
    rw [pathText, String.toList_ofList]
    cases rooted with
    | false => exact readAll_names hne hnames (Nat.lt_succ_self _)
    | true =>
        obtain ⟨first, names, rfl⟩ := List.exists_cons_of_ne_nil hne
        have hfirst := hnames first List.mem_cons_self
        exact (readAll_colons (startsPunctuation_names hfirst names) _).trans
          (congrArg (Option.map _) (readAll_names hne hnames (Nat.lt_succ_self _)))
  rw [readTokens, hmark, hlexemes]
  exact nest_leaves [] _

/-- A name alone is an identifier unless it is a keyword. -/
theorem identifierOfText?_name {name : String} (hname : isBareName name = true) :
    identifierOfText? name = if isKeyword name then none else some name := by
  have htext : name = pathText false [name] := String.ofList_toList.symm
  have htokens : readTokens name.toList = some [.ident name 1] := by
    have hread := readTokens_pathText false (List.cons_ne_nil name [])
      (List.forall_mem_singleton.mpr hname)
    rw [← htext] at hread
    exact hread
  rw [identifierOfText?, htokens]

/-! ### Paths -/

/-- A word that the grammar of paths takes as a segment: a name that is no keyword, a word of the
module tree, or `try`. -/
def isSegmentName (name : String) : Bool := !isKeyword name || isPathWord name || name == "try"

/-- The tokens of names begin with the first of them, and then end or go on with `::`. -/
theorem exists_joinedNameTokens_eq (line : ℕ) (first : String) (names : List String) :
    ∃ rest, joinedNameTokens line (first :: names) = .ident first line :: rest ∧
      startsArguments rest = false := by
  cases names with
  | nil => exact ⟨[], rfl, rfl⟩
  | cons second names =>
      refine ⟨_, joinedNameTokens_cons_cons line first second names, ?_⟩
      cases names with
      | nil => rfl
      | cons third names =>
          rw [joinedNameTokens_cons_cons]
          rfl

/-- A word that is not followed by generic arguments is a segment, or is refused. -/
theorem readSegment_name {name : String} {rest : List Token} (fuel : ℕ)
    (hrest : startsArguments rest = false) :
    readSegment (fuel + 1) (.ident name line :: rest) =
      if isSegmentName name then .ok (.mk name none, rest) else .error .unexpected := by
  rw [readSegment.eq_def]
  dsimp only
  rw [hrest, isSegmentName, isPathWord]
  by_cases hword : name = "super" ∨ name = "self" ∨ name = "crate" ∨ name = "try"
  · rw [if_pos hword, if_pos]
    rcases hword with rfl | rfl | rfl | rfl <;> decide
  · rw [if_neg hword]
    simp only [not_or] at hword
    obtain ⟨hsuper, hself, hcrate, htry⟩ := hword
    by_cases hplace : name = "Self"
    · subst hplace
      rfl
    · cases hkeyword : isKeyword name <;> simp [*]

/-- Names are read as segments, unless one of them is refused. -/
theorem readSegments_names (hne : names ≠ []) {fuel : ℕ} (hfuel : names.length < fuel) :
    readSegments fuel (joinedNameTokens line names) =
      if names.all isSegmentName then .ok (names.map fun name => .mk name none, [])
      else .error .unexpected := by
  induction names generalizing fuel with
  | nil => exact absurd rfl hne
  | cons first names ih =>
      obtain ⟨fuel, rfl⟩ : ∃ less, fuel = less + 2 :=
        Nat.exists_eq_add_of_le' (Nat.le_trans (by simp) hfuel)
      obtain ⟨rest, htokens, hrest⟩ := exists_joinedNameTokens_eq line first names
      rw [readSegments, htokens, readSegment_name fuel hrest, List.all_cons]
      cases hfirst : isSegmentName first with
      | false => rfl
      | true =>
          rw [if_pos rfl, Bool.true_and]
          cases names with
          | nil =>
              cases htokens
              rfl
          | cons second names =>
              rw [joinedNameTokens_cons_cons] at htokens
              cases htokens
              obtain ⟨more, hmore, -⟩ := exists_joinedNameTokens_eq line second names
              have hlength : (second :: names).length < fuel + 1 := Nat.lt_of_succ_lt_succ hfuel
              have hnext : startsNextSegment
                  (.punct ':' true :: .punct ':' false :: joinedNameTokens line (second :: names)) =
                    true := by
                rw [hmore]
                rfl
              have hcolons : readOperator [':', ':']
                  (.punct ':' true :: .punct ':' false :: joinedNameTokens line (second :: names)) =
                    .ok (joinedNameTokens line (second :: names)) := rfl
              rw [ok_bind]
              dsimp only
              rw [if_pos hnext, hcolons, ok_bind, ih (List.cons_ne_nil _ _) hlength]
              split_ifs <;> rfl

theorem length_le_sizeAll (tokens : List Token) : tokens.length ≤ Token.sizeAll tokens := by
  induction tokens with
  | nil => exact Nat.zero_le _
  | cons first tokens ih =>
      have hfirst : 1 ≤ first.size := by
        cases first <;> simp [Token.size]
      rw [List.length_cons, Token.sizeAll]
      omega

theorem length_le_joinedNameTokens (line : ℕ) (names : List String) :
    names.length ≤ (joinedNameTokens line names).length := by
  induction names with
  | nil => exact Nat.zero_le _
  | cons first names ih =>
      cases names with
      | nil => exact Nat.le_refl _
      | cons second names =>
          rw [joinedNameTokens_cons_cons]
          simp only [List.length_cons] at ih ⊢
          omega

theorem segmentTokens_names (names : List String) :
    segmentTokens (names.map fun name => .mk name none) = joinedNameTokens 0 names := by
  induction names with
  | nil => rw [List.map_nil, segmentTokens]; rfl
  | cons first names ih =>
      cases names with
      | nil => rw [List.map_cons, List.map_nil, segmentTokens, Segment.tokens]; rfl
      | cons second names =>
          rw [List.map_cons] at ih
          rw [List.map_cons, List.map_cons, segmentTokens, Segment.tokens, ih,
            joinedNameTokens_cons_cons]
          rfl

theorem group_notMem_joinedNameTokens {delimiter : Delimiter} {content : List Token} :
    .group delimiter content ∉ joinedNameTokens line names := by
  induction names with
  | nil => exact List.not_mem_nil
  | cons first names ih =>
      cases names with
      | nil => simp [joinedNameTokens]
      | cons second names =>
          rw [joinedNameTokens_cons_cons]
          simpa using ih

/-- A parser takes names with `::` between them as a path of just these names, and refuses them
when a keyword stands among them that the grammar of paths does not take. -/
def ReadsNames [SourceParser] : Prop :=
  ∀ (line : ℕ) (rooted : Bool) (names : List String), names ≠ [] →
    (∀ name ∈ names, isBareName name = true) →
    (finish (SourceParser.path (pathNameTokens line rooted names))).toOption =
      if names.all isSegmentName then some (.mk rooted (names.map fun name => .mk name none))
      else none

/-- The path that names are read as, unless one of them is refused. -/
theorem pathOfText?_pathText [SourceParser] (hreads : ReadsNames) (rooted : Bool) (hne : names ≠ [])
    (hnames : ∀ name ∈ names, isBareName name = true) :
    pathOfText? (pathText rooted names) =
      if names.all isSegmentName then some (.mk rooted (names.map fun name => .mk name none))
      else none := by
  rw [pathOfText?, readTokens_pathText rooted hne hnames]
  exact hreads 1 rooted names hne hnames

/-! ### The grammar of paths -/

/-- Names are read as a path by the grammar, unless one of them is refused. -/
theorem readPath_names (rooted : Bool) (hne : names ≠ []) :
    readPath (pathNameTokens line rooted names) =
      if names.all isSegmentName then
        .ok (.mk rooted (names.map fun name => .mk name none), [])
      else .error .unexpected := by
  have hsize : names.length ≤ Token.sizeAll (pathNameTokens line rooted names) := by
    refine Nat.le_trans ?_ (length_le_sizeAll _)
    rw [pathNameTokens, List.length_append]
    exact Nat.le_trans (length_le_joinedNameTokens line names) (Nat.le_add_left _ _)
  obtain ⟨fuel, hfuel⟩ : ∃ fuel, grammarFuel (pathNameTokens line rooted names) = fuel + 1 :=
    Nat.exists_eq_add_of_le' (by rw [grammarFuel]; omega)
  have hlength : names.length < fuel := by
    rw [grammarFuel] at hfuel
    omega
  have hread : readPath (pathNameTokens line rooted names) =
      (readSegments fuel (joinedNameTokens line names)).map
        fun found => (.mk rooted found.1, found.2) := by
    obtain ⟨first, names, rfl⟩ := List.exists_cons_of_ne_nil hne
    obtain ⟨rest, htokens, -⟩ := exists_joinedNameTokens_eq line first names
    rw [readPath, hfuel, readPathWith, pathNameTokens]
    cases rooted with
    | true =>
        have hdrop : dropOperator? [':', ':']
            ((if true then operator [':', ':'] else []) ++ joinedNameTokens line (first :: names)) =
              some (joinedNameTokens line (first :: names)) := rfl
        rw [hdrop]
        dsimp only
        cases readSegments fuel (joinedNameTokens line (first :: names)) <;> rfl
    | false =>
        have hdrop : dropOperator? [':', ':']
            ((if false then operator [':', ':'] else []) ++
              joinedNameTokens line (first :: names)) = none := by
          rw [htokens]
          rfl
        rw [hdrop]
        dsimp only
        rw [if_neg Bool.false_ne_true, List.nil_append]
        cases readSegments fuel (joinedNameTokens line (first :: names)) <;> rfl
  rw [hread, readSegments_names hne hlength]
  split_ifs <;> rfl

/-- Outside brackets no token of a type is an array length or a block constant. -/
theorem constantsFit_of_forall_leaf (inner : ExpressionReaders) {fuel : ℕ} {tokens : List Token}
    (hfuel : tokens.length < fuel)
    (hleaves : ∀ token ∈ tokens, ∀ delimiter content, token ≠ .group delimiter content) :
    constantsFit inner fuel tokens = true := by
  induction fuel generalizing tokens with
  | zero => exact absurd hfuel (Nat.not_lt_zero _)
  | succ fuel ih =>
      cases tokens with
      | nil => rw [constantsFit]
      | cons first rest =>
          have hrest := ih (Nat.lt_of_succ_lt_succ hfuel) (List.forall_mem_cons.mp hleaves).2
          rw [constantsFit.eq_def]
          dsimp only
          split
          all_goals simp_all

theorem tokens_names (rooted : Bool) (names : List String) :
    (Path.mk rooted (names.map fun name => .mk name none)).tokens =
      pathNameTokens 0 rooted names := by
  rw [Path.tokens, segmentTokens_names]
  rfl

/-- The grammar takes names as paths. -/
theorem readsNames_standard : @ReadsNames .standard := by
  intro line rooted names hne hnames
  change (finish (checkConstants Path.tokens (readPath _))).toOption = _
  rw [readPath_names rooted hne]
  split_ifs with hall
  · have hfits : constantsFit (plainReaders (pathNameTokens 0 rooted names))
        (grammarFuel (pathNameTokens 0 rooted names)) (pathNameTokens 0 rooted names) = true := by
      refine constantsFit_of_forall_leaf _ ?_ ?_
      · have hlength := length_le_sizeAll (pathNameTokens 0 rooted names)
        rw [grammarFuel]
        omega
      · intro token hmem delimiter content htoken
        subst htoken
        rw [pathNameTokens, List.mem_append] at hmem
        rcases hmem with hmem | hmem
        · cases rooted <;> simp [operator] at hmem
        · exact group_notMem_joinedNameTokens hmem
    rw [checkConstants, ok_bind]
    dsimp only
    rw [tokens_names, if_pos hfits]
    rfl
  · rfl

end Paths

end MarkedRoutes.Source
