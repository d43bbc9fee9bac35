import MarkedRoutes.Proofs.Source.Leftovers

/-!
# Types are balanced

The tokens of a type pair their angle brackets: whatever a reader of types returns is put together
from words, marks, groups and pairs of angle brackets, and the only other bracket is the one in
`->`.  The readers call each other with less fuel, so one step says this of each of them when the
others keep to it, and an induction on the fuel closes the circle.
-/

namespace MarkedRoutes.Source

open Std.Do

set_option mvcgen.warning false

/-! ### Atoms -/

/-- The characters that types are put together with. -/
def typeMarks : List Char := [':', '<', '>', '-', '(', ')', '[', ']', '\x7b', '\x7d']

/-- A word or a literal that shows, and holds none of the characters that types are put together
with. -/
def isPlainText (text : String) : Bool :=
  (text.toList.any fun c => !Text.isBlank c) && text.toList.all fun c => !typeMarks.contains c

theorem isPlainText_iff {text : String} : isPlainText text = true ↔
    (∃ c ∈ text.toList, Text.isBlank c = false) ∧ ∀ c ∈ text.toList, c ∉ typeMarks := by
  simp [isPlainText]

/-- An atom whose text does not interfere with that of others. -/
def Token.isPlain : Token → Bool
  | .ident name _ => isPlainText name
  | .punct mark _ => Lexeme.punctuation.contains mark
  | .literal text => isPlainText text
  | .group _ _ => false

mutual

def Token.atoms : Token → List Token
  | .ident name line => [.ident name line]
  | .punct mark joined => [.punct mark joined]
  | .literal text => [.literal text]
  | .group _ content => atomsIn content

def atomsIn : List Token → List Token
  | [] => []
  | first :: rest => first.atoms ++ atomsIn rest

end

def Plain (tokens : List Token) : Prop := ∀ atom ∈ atomsIn tokens, atom.isPlain = true

section Plain

variable {tokens rest left right content : List Token} {token : Token} {delimiter : Delimiter}

theorem atomsIn_eq_flatMap (tokens : List Token) : atomsIn tokens = tokens.flatMap Token.atoms := by
  induction tokens with
  | nil => rw [atomsIn, List.flatMap_nil]
  | cons first rest ih => rw [atomsIn, ih, List.flatMap_cons]

theorem mem_atomsIn_iff {atom : Token} :
    atom ∈ atomsIn tokens ↔ ∃ token ∈ tokens, atom ∈ token.atoms := by
  rw [atomsIn_eq_flatMap, List.mem_flatMap]

@[grind →]
theorem Plain.mono (hplain : Plain tokens) (hsubset : rest ⊆ tokens) : Plain rest := by
  intro atom hatom
  obtain ⟨token, hmem, hatom⟩ := mem_atomsIn_iff.mp hatom
  exact hplain atom (mem_atomsIn_iff.mpr ⟨token, hsubset hmem, hatom⟩)

@[grind =]
theorem plain_append_iff : Plain (left ++ right) ↔ Plain left ∧ Plain right := by
  simp only [Plain, atomsIn_eq_flatMap, List.flatMap_append, List.forall_mem_append]

@[grind .]
theorem plain_nil : Plain [] := fun _ hatom => nomatch hatom

@[grind =]
theorem plain_ident_iff {name : String} {line : ℕ} :
    Plain (.ident name line :: rest) ↔ isPlainText name = true ∧ Plain rest := by
  rw [Plain, atomsIn, List.forall_mem_append, Token.atoms, List.forall_mem_singleton]
  rfl

@[grind =]
theorem plain_punct_iff {mark : Char} {joined : Bool} :
    Plain (.punct mark joined :: rest) ↔
      Lexeme.punctuation.contains mark = true ∧ Plain rest := by
  rw [Plain, atomsIn, List.forall_mem_append, Token.atoms, List.forall_mem_singleton]
  rfl

@[grind =]
theorem plain_literal_iff {text : String} :
    Plain (.literal text :: rest) ↔ isPlainText text = true ∧ Plain rest := by
  rw [Plain, atomsIn, List.forall_mem_append, Token.atoms, List.forall_mem_singleton]
  rfl

@[grind =]
theorem plain_group_iff :
    Plain (.group delimiter content :: rest) ↔ Plain content ∧ Plain rest := by
  rw [Plain, atomsIn, List.forall_mem_append, Token.atoms]
  rfl

end Plain

/-! ### Balanced tokens -/

/-- A punctuation character that is no angle bracket and begins no arrow. -/
def isPlainMark (c : Char) : Bool :=
  Lexeme.punctuation.contains c && !(['<', '>', '-'].contains c)

/-- Tokens whose angle brackets pair, those in groups and in `->` apart. -/
inductive Balanced : List Token → Prop
  | nil : Balanced []
  | append {left right : List Token} (hleft : Balanced left) (hright : Balanced right) :
      Balanced (left ++ right)
  | word {name : String} {line : ℕ} (hname : isPlainText name = true) : Balanced [.ident name line]
  | literal {text : String} (htext : isPlainText text = true) : Balanced [.literal text]
  | mark {mark : Char} {joined : Bool} (hmark : isPlainMark mark = true) :
      Balanced [.punct mark joined]
  | group {delimiter : Delimiter} {content : List Token} (hcontent : Plain content) :
      Balanced [.group delimiter content]
  | arrow {first second : Bool} : Balanced [.punct '-' first, .punct '>' second]
  | negative {text : String} {joined : Bool} (htext : isPlainText text = true) :
      Balanced [.punct '-' joined, .literal text]
  | angles {content : List Token} {first last : Bool} (hcontent : Balanced content) :
      Balanced (.punct '<' first :: (content ++ [.punct '>' last]))

namespace Balanced

variable {tokens left right : List Token} {token : Token}

theorem cons (htoken : Balanced [token]) (htokens : Balanced tokens) :
    Balanced (token :: tokens) :=
  htoken.append htokens

theorem plain (hbalanced : Balanced tokens) : Plain tokens := by
  have hminus : Lexeme.punctuation.contains '-' = true := by decide
  have hopen : Lexeme.punctuation.contains '<' = true := by decide
  have hclose : Lexeme.punctuation.contains '>' = true := by decide
  induction hbalanced with
  | nil => exact plain_nil
  | append _ _ hleft hright => exact plain_append_iff.mpr ⟨hleft, hright⟩
  | word hname => exact plain_ident_iff.mpr ⟨hname, plain_nil⟩
  | literal htext => exact plain_literal_iff.mpr ⟨htext, plain_nil⟩
  | mark hmark => exact plain_punct_iff.mpr ⟨(Bool.and_eq_true_iff.mp hmark).1, plain_nil⟩
  | group hcontent => exact plain_group_iff.mpr ⟨hcontent, plain_nil⟩
  | arrow => exact plain_punct_iff.mpr ⟨hminus, plain_punct_iff.mpr ⟨hclose, plain_nil⟩⟩
  | negative htext =>
      exact plain_punct_iff.mpr ⟨hminus, plain_literal_iff.mpr ⟨htext, plain_nil⟩⟩
  | angles _ hcontent =>
      exact plain_punct_iff.mpr ⟨hopen, plain_append_iff.mpr
        ⟨hcontent, plain_punct_iff.mpr ⟨hclose, plain_nil⟩⟩⟩

end Balanced

/-- The words that a type is written with, besides those of its text. -/
def typeWords : List String :=
  ["mut", "const", "_", "dyn", "impl", "as", "use", "for", "async", "fn", "unsafe", "extern"]

theorem balanced_typeWord {name : String} (hname : name ∈ typeWords) : Balanced [word name] := by
  have hwords : typeWords.all isPlainText = true := by decide
  exact .word (List.all_eq_true.mp hwords name hname)

theorem balanced_operator {marks : List Char} (hmarks : marks.all isPlainMark = true) :
    Balanced (operator marks) := by
  induction marks with
  | nil => exact .nil
  | cons first marks ih =>
      rw [List.all_cons, Bool.and_eq_true] at hmarks
      cases marks with
      | nil => exact .mark hmarks.1
      | cons second marks => exact (Balanced.mark hmarks.1).cons (ih hmarks.2)

theorem balanced_lifetimeTokens {name : String} (hname : isPlainText name = true) :
    Balanced (lifetimeTokens name) :=
  (Balanced.mark (by decide)).cons (.word hname)

/-! ### Balanced types -/

/-- The tokens between the angle brackets of generic arguments. -/
def GenericArguments.innerTokens : GenericArguments → List Token
  | .mk _ arguments trailingComma =>
    let parts := withCommas trailingComma (genericTokens arguments)
    argumentTokens
      (parts.filterMap fun part => if part.1.1 then some (part.1.2, part.2) else none)
      (parts.filterMap fun part => if part.1.1 then none else some (part.1.2, part.2))

theorem GenericArguments.tokens_eq (arguments : GenericArguments) :
    arguments.tokens = (if arguments.turbofish then operator [':', ':'] else []) ++
      (.punct '<' false :: (arguments.innerTokens ++ [.punct '>' false])) := by
  cases arguments
  rw [tokens]
  rfl

/-- A name with balanced generic arguments. -/
structure Segment.IsBalanced (segment : Segment) : Prop where
  name : isPlainText segment.name = true
  arguments : ∀ arguments ∈ segment.arguments, Balanced arguments.innerTokens

/-- A path of balanced segments, of which there are some. -/
structure Path.IsBalanced (path : Path) : Prop where
  segments_ne_nil : path.segments ≠ []
  segments : ∀ segment ∈ path.segments, segment.IsBalanced

/-- A type with balanced tokens; when it is a path, its segments are balanced. -/
structure TypeExpr.IsBalanced (type : TypeExpr) : Prop where
  tokens : Balanced type.tokens
  path : ∀ written, type = .path written → written.IsBalanced

def GenericArgument.IsBalanced : GenericArgument → Prop
  | .lifetime name => isPlainText name = true
  | .type argument => Balanced argument.tokens
  | .other tokens => Balanced tokens

section Parts

theorem balanced_argumentTokens {lifetimes others : List (List Token × Bool)}
    (hlifetimes : ∀ argument ∈ lifetimes, Balanced argument.1)
    (hothers : ∀ argument ∈ others, Balanced argument.1) :
    Balanced (argumentTokens lifetimes others) := by
  have hcomma : Balanced [.punct ',' false] := .mark (by decide)
  have hfold : ∀ (required : Bool) (arguments : List (List Token × Bool))
      (state : List Token × Bool), (∀ argument ∈ arguments, Balanced argument.1) →
      Balanced state.1 → Balanced (arguments.foldl (argumentTokens.step required) state).1 := by
    intro required arguments
    induction arguments with
    | nil => exact fun state _ hstate => hstate
    | cons first arguments ih =>
        intro state harguments hstate
        obtain ⟨hfirst, harguments⟩ := List.forall_mem_cons.mp harguments
        refine ih _ harguments ?_
        rw [argumentTokens.step]
        dsimp only
        refine ((hstate.append ?_).append hfirst).append ?_ <;> split_ifs
        all_goals first | exact hcomma | exact .nil
  exact hfold true others _ hothers (hfold false lifetimes _ hlifetimes .nil)

theorem mem_of_mem_withCommas {α : Type} {trailingComma : Bool} {items : List α}
    {found : α × Bool} (hmem : found ∈ withCommas trailingComma items) : found.1 ∈ items := by
  fun_induction withCommas trailingComma items <;> grind

theorem mem_genericTokens {arguments : List GenericArgument} {part : Bool × List Token}
    (harguments : ∀ argument ∈ arguments, argument.IsBalanced)
    (hmem : part ∈ genericTokens arguments) : Balanced part.2 := by
  induction arguments with
  | nil =>
      rw [genericTokens] at hmem
      cases hmem
  | cons first arguments ih =>
      obtain ⟨hfirst, hrest⟩ := List.forall_mem_cons.mp harguments
      cases first <;> rw [genericTokens] at hmem
      all_goals
        rcases List.mem_cons.mp hmem with rfl | hmem
        · first | exact balanced_lifetimeTokens hfirst | exact hfirst
        · exact ih hrest hmem

theorem balanced_innerTokens {turbofish trailingComma : Bool} {arguments : List GenericArgument}
    (harguments : ∀ argument ∈ arguments, argument.IsBalanced) :
    Balanced (GenericArguments.mk turbofish arguments trailingComma).innerTokens := by
  have hparts : ∀ part ∈ withCommas trailingComma (genericTokens arguments), Balanced part.1.2 :=
    fun part hmem => mem_genericTokens harguments (mem_of_mem_withCommas hmem)
  refine balanced_argumentTokens (fun argument hmem => ?_) fun argument hmem => ?_
  all_goals
    obtain ⟨part, hpart, hargument⟩ := List.mem_filterMap.mp hmem
    have hbalanced := hparts part hpart
    grind

theorem isBalanced_name {name : String} (hname : isPlainText name = true) :
    (Segment.mk name none).IsBalanced :=
  ⟨hname, nofun⟩

theorem isBalanced_arguments {name : String} {arguments : GenericArguments}
    (hname : isPlainText name = true) (harguments : Balanced arguments.innerTokens) :
    (Segment.mk name (some arguments)).IsBalanced := by
  refine ⟨hname, ?_⟩
  rintro found ⟨⟩
  exact harguments

theorem Segment.IsBalanced.tokens {segment : Segment} (hsegment : segment.IsBalanced) :
    Balanced segment.tokens := by
  obtain ⟨name, arguments⟩ := segment
  rw [Segment.tokens.eq_def]
  refine Balanced.cons (.word hsegment.name) ?_
  cases arguments with
  | none => exact .nil
  | some arguments =>
      dsimp only
      rw [GenericArguments.tokens_eq]
      refine .append ?_ (.angles (hsegment.arguments arguments rfl))
      split_ifs
      · exact balanced_operator (by decide)
      · exact .nil

theorem balanced_segmentTokens {segments : List Segment}
    (hsegments : ∀ segment ∈ segments, segment.IsBalanced) :
    Balanced (segmentTokens segments) := by
  induction segments with
  | nil =>
      rw [segmentTokens]
      exact .nil
  | cons first segments ih =>
      obtain ⟨hfirst, hsegments⟩ := List.forall_mem_cons.mp hsegments
      cases segments with
      | nil =>
          rw [segmentTokens]
          exact hfirst.tokens
      | cons second segments =>
          rw [segmentTokens]
          exact hfirst.tokens.append ((balanced_operator (by decide)).append (ih hsegments))

theorem Path.IsBalanced.tokens {path : Path} (hpath : path.IsBalanced) : Balanced path.tokens := by
  obtain ⟨rooted, segments⟩ := path
  rw [Path.tokens]
  refine .append ?_ (balanced_segmentTokens hpath.segments)
  split_ifs
  · exact balanced_operator (by decide)
  · exact .nil

end Parts

/-! ### Forms of types -/

section Forms

variable {tokens : List Token} {inner : TypeExpr}

theorem isBalanced_path {path : Path} (hpath : path.IsBalanced) :
    (TypeExpr.path path).IsBalanced where
  tokens := hpath.tokens
  path := by
    rintro written ⟨⟩
    exact hpath

theorem isBalanced_qualified (htokens : Balanced tokens) :
    (TypeExpr.qualified tokens).IsBalanced :=
  ⟨htokens, nofun⟩

theorem isBalanced_opaqueType (htokens : Balanced tokens) :
    (TypeExpr.opaqueType tokens).IsBalanced :=
  ⟨htokens, nofun⟩

theorem isBalanced_traitObject (htokens : Balanced tokens) :
    (TypeExpr.traitObject tokens).IsBalanced :=
  ⟨htokens, nofun⟩

theorem isBalanced_function (htokens : Balanced tokens) :
    (TypeExpr.function tokens).IsBalanced :=
  ⟨htokens, nofun⟩

theorem isBalanced_macroCall (htokens : Balanced tokens) :
    (TypeExpr.macroCall tokens).IsBalanced :=
  ⟨htokens, nofun⟩

theorem isBalanced_never : TypeExpr.never.IsBalanced :=
  ⟨.mark (by decide), nofun⟩

theorem isBalanced_inferred : TypeExpr.inferred.IsBalanced :=
  ⟨balanced_typeWord (by decide), nofun⟩

theorem isBalanced_reference {lifetime : Option String} {isMutable : Bool}
    (hlifetime : ∀ name ∈ lifetime, isPlainText name = true) (hinner : inner.IsBalanced) :
    (TypeExpr.reference lifetime isMutable inner).IsBalanced := by
  refine ⟨.cons (.mark (by decide)) (.append (.append ?_ ?_) hinner.tokens), nofun⟩
  · cases lifetime with
    | none => exact .nil
    | some name => exact balanced_lifetimeTokens (hlifetime name rfl)
  · cases isMutable
    · exact .nil
    · exact balanced_typeWord (by decide)

theorem isBalanced_pointer {isMutable : Bool} (hinner : inner.IsBalanced) :
    (TypeExpr.pointer isMutable inner).IsBalanced := by
  refine ⟨.cons (.mark (by decide)) (.cons ?_ hinner.tokens), nofun⟩
  cases isMutable <;> exact balanced_typeWord (by decide)

theorem isBalanced_parenthesized (hinner : inner.IsBalanced) :
    (TypeExpr.parenthesized inner).IsBalanced :=
  ⟨.group hinner.tokens.plain, nofun⟩

theorem isBalanced_slice (hinner : inner.IsBalanced) : (TypeExpr.slice inner).IsBalanced :=
  ⟨.group hinner.tokens.plain, nofun⟩

theorem isBalanced_array (hinner : inner.IsBalanced) (htokens : Plain tokens) :
    (TypeExpr.array inner tokens).IsBalanced := by
  have hlength : Plain (.punct ';' false :: tokens) := plain_punct_iff.mpr ⟨by decide, htokens⟩
  exact ⟨.group (plain_append_iff.mpr ⟨hinner.tokens.plain, hlength⟩), nofun⟩

theorem plain_commaSeparated {trailingComma : Bool} {types : List TypeExpr}
    (htypes : ∀ type ∈ types, type.IsBalanced) :
    Plain (commaSeparated trailingComma (typeTokens types)) := by
  have hcomma : Lexeme.punctuation.contains ',' = true := by decide
  induction types with
  | nil =>
      rw [typeTokens, commaSeparated]
      exact plain_nil
  | cons first types ih =>
      obtain ⟨hfirst, hrest⟩ := List.forall_mem_cons.mp htypes
      cases types with
      | nil =>
          rw [typeTokens, typeTokens, commaSeparated]
          refine plain_append_iff.mpr ⟨hfirst.tokens.plain, ?_⟩
          split_ifs
          · exact plain_punct_iff.mpr ⟨hcomma, plain_nil⟩
          · exact plain_nil
      | cons second types =>
          rw [typeTokens, typeTokens, commaSeparated, ← typeTokens]
          exact plain_append_iff.mpr
            ⟨hfirst.tokens.plain, plain_punct_iff.mpr ⟨hcomma, ih hrest⟩⟩

theorem isBalanced_tuple {trailingComma : Bool} {types : List TypeExpr}
    (htypes : ∀ type ∈ types, type.IsBalanced) :
    (TypeExpr.tuple types trailingComma).IsBalanced :=
  ⟨.group (plain_commaSeparated htypes), nofun⟩

end Forms

end MarkedRoutes.Source
