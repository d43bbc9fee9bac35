import MarkedRoutes.Proofs.Source.LiteralEnds
import Mathlib.Tactic.IntervalCases

/-!
# Where words end

A word is a name or a raw name.  No blank, digit or mark begins a name, so a word is read back from
the head of a longer text, and is no literal there, unless an identifier character stands behind
it, or a quote or a hash behind the few letters that open a literal.
-/

namespace MarkedRoutes.Source

open MarkedRoutes.Text Literal

/-! ### Characters of names -/

/-- The code points that separate tokens. -/
def separatorPoints : List ℕ :=
  [0x9, 0xA, 0xB, 0xC, 0xD, 0x20, 0x85, 0xA0, 0x1680, 0x2000, 0x2001, 0x2002, 0x2003, 0x2004,
    0x2005, 0x2006, 0x2007, 0x2008, 0x2009, 0x200A, 0x200E, 0x200F, 0x2028, 0x2029, 0x202F,
    0x205F, 0x3000]

theorem mem_separatorPoints {c : Char} (hc : Lexeme.isSeparator c = true) :
    c.toNat ∈ separatorPoints := by
  have hmarks : c = '\u200e' ∨ c = '\u200f' → c.toNat ∈ separatorPoints := by
    rintro (rfl | rfl) <;> decide
  simp only [Lexeme.isSeparator, isBlank, Bool.or_eq_true, Bool.and_eq_true, decide_eq_true_eq,
    beq_iff_eq] at hc
  generalize hpoint : c.toNat = point at hc hmarks ⊢
  rcases hc with ((((((((((((hc | hc) | hc) | hc) | hc) | hc) | hc) | hc) | hc) | hc) | hc)) | hc) |
    hc
  all_goals first
    | exact hmarks (Or.inl hc)
    | exact hmarks (Or.inr hc)
    | (subst hc; decide)
    | (obtain ⟨hlow, hhigh⟩ := hc; interval_cases point <;> decide)

theorem not_isSeparator_of_isIdentifierStart {c : Char} (hc : isIdentifierStart c = true) :
    Lexeme.isSeparator c = false := by
  have hpoints : ∀ point ∈ separatorPoints, isIdentifierStart (Char.ofNat point) = false := by
    decide +kernel
  rw [Bool.eq_false_iff]
  intro hseparator
  have hstart := hpoints _ (mem_separatorPoints hseparator)
  rw [Char.ofNat_toNat, hc] at hstart
  cases hstart

theorem not_isDigit_of_isIdentifierStart {c : Char} (hc : isIdentifierStart c = true) :
    c.isDigit = false := by
  have hpoints : ∀ point ∈ List.range' 48 10, isIdentifierStart (Char.ofNat point) = false := by
    decide
  rw [Bool.eq_false_iff]
  intro hdigit
  rw [Char.isDigit, Bool.and_eq_true, decide_eq_true_eq, decide_eq_true_eq] at hdigit
  have hmem : c.toNat ∈ List.range' 48 10 :=
    List.mem_range'_1.mpr ⟨hdigit.1, Nat.lt_succ_of_le hdigit.2⟩
  have hstart := hpoints _ hmem
  rw [Char.ofNat_toNat, hc] at hstart
  cases hstart

/-! ### Words -/

/-- The words that open a literal in front of a quote or a hash. -/
def literalLetters : List (List Char) := ["r", "b", "c", "br", "cr"].map String.toList

/-- The marks that make a literal or a raw name of the letters in front of them. -/
def literalMarks : List Char := ['"', '#', '\'']

theorem not_goesOn_of_mem_literalMarks {c : Char} (hc : c ∈ literalMarks) : goesOn c = false := by
  have hmarks : (literalMarks.all fun c => !goesOn c) = true := by decide +kernel
  simpa using List.all_eq_true.mp hmarks c hc

/-- The characters of a name behind its raw mark. -/
structure IsName (first : Char) (tail : List Char) : Prop where
  start : isIdentifierStart first = true
  continues : ∀ c ∈ tail, isIdentifierContinue c = true

theorem IsName.goesOn_of_mem {first c : Char} {tail : List Char} (hname : IsName first tail)
    (hc : c ∈ first :: tail) : goesOn c = true := by
  rcases List.mem_cons.mp hc with rfl | hc
  · rw [goesOn, hname.start, Bool.true_or]
  · rw [goesOn, hname.continues c hc, Bool.or_true]

theorem IsName.notMem_literalMarks {first c : Char} {tail : List Char} (hname : IsName first tail)
    (hc : c ∈ first :: tail) : c ∉ literalMarks := by
  intro hmark
  have hgoes := hname.goesOn_of_mem hc
  rw [not_goesOn_of_mem_literalMarks hmark] at hgoes
  cases hgoes

theorem IsName.identifier_eq {first : Char} {tail : List Char} (hname : IsName first tail) :
    Lexeme.identifier (first :: tail) = some (first :: tail, []) := by
  rw [Lexeme.identifier, if_pos hname.start, List.takeWhile_eq_self_iff.mpr hname.continues,
    List.dropWhile_eq_nil_iff.mpr hname.continues]
  rintro _ rest - rfl
  exact hname.notMem_literalMarks (List.mem_cons_of_mem _ List.mem_cons_self) (by decide)

/-- A word is a name, or the raw mark and a name that may be raw. -/
theorem exists_isName {word : List Char} (hword : Lexeme.identifier word = some (word, [])) :
    ∃ first tail, IsName first tail ∧ (word = first :: tail ∨
      word = 'r' :: '#' :: first :: tail ∧
        hasNoRawForm (String.ofList (first :: tail)) = false) := by
  have hall {tail : List Char} (htake : tail.takeWhile isIdentifierContinue = tail) :
      ∀ c ∈ tail, isIdentifierContinue c = true := List.takeWhile_eq_self_iff.mp htake
  unfold Lexeme.identifier at hword
  split at hword
  · next c rest =>
    dsimp only at hword
    split_ifs at hword with hstart hraw
    have htake : rest.takeWhile isIdentifierContinue = rest := by
      simpa using (Prod.mk.inj (Option.some.inj hword)).1
    rw [htake] at hraw
    exact ⟨c, rest, ⟨hstart, hall htake⟩, .inr ⟨rfl, Bool.eq_false_iff.mpr hraw⟩⟩
  · next c rest hraw =>
    split_ifs at hword with hstart
    have htake := (List.cons.inj (Prod.mk.inj (Option.some.inj hword)).1).2
    exact ⟨c, rest, ⟨hstart, hall htake⟩, .inl rfl⟩
  · cases hword

/-- A raw string needs a quote behind its hashes. -/
theorem stringBody_raw {bytes : Bool} {text : List Char}
    (hquote : ∀ count, ¬ List.replicate count '#' ++ ['"'] <+: text) :
    stringBody true bytes text = none := by
  unfold stringBody
  rw [if_pos rfl]
  dsimp only
  split
  · next after hafter =>
    have hhashes : text.takeWhile (· == '#') =
        List.replicate (text.takeWhile (· == '#')).length '#' :=
      List.eq_replicate_iff.mpr ⟨rfl, fun c hc => by simpa using List.mem_takeWhile_imp hc⟩
    refine absurd ⟨after, ?_⟩ (hquote (text.takeWhile (· == '#')).length)
    rw [← hhashes, List.append_assoc, List.singleton_append, ← hafter,
      List.takeWhile_append_dropWhile]
  · rfl

/-- A raw string begins with a hash or a quote. -/
theorem stringBody_eq_none {bytes : Bool} {text : List Char}
    (htext : ∀ c ∈ text.head?, c ∉ literalMarks) : stringBody true bytes text = none := by
  rw [stringBody_raw]
  rintro count ⟨rest, rfl⟩
  cases count with
  | zero => exact htext '"' rfl (by decide)
  | succ count => exact htext '#' rfl (by decide)

section Word

variable {word behind : List Char} (hstops : Stops behind)
  (hmarks : word ∈ literalLetters → ∀ c ∈ behind.head?, c ∉ literalMarks)
include hstops

theorem IsName.append {first : Char} {tail : List Char} (hname : IsName first tail) :
    (tail ++ behind).takeWhile isIdentifierContinue = tail ∧
      (tail ++ behind).dropWhile isIdentifierContinue = behind := by
  have happend := hstops.append tail
  rw [happend.1, happend.2, List.takeWhile_eq_self_iff.mpr hname.continues,
    List.dropWhile_eq_nil_iff.mpr hname.continues]
  exact ⟨rfl, rfl⟩

include hmarks

/-- A word does not begin like a literal or a raw name. -/
theorem IsName.ne_letters {first mark : Char} {tail after : List Char}
    (hname : IsName first tail) (hword : word = first :: tail) (letters : List Char)
    (hletters : letters = [] ∨ letters ∈ literalLetters) (hmark : mark ∈ literalMarks) :
    word ++ behind ≠ letters ++ mark :: after := by
  have hgoing : (literalLetters.all fun letters => letters.all goesOn) = true := by decide +kernel
  have hsame {after : List Char} (heq : word = letters) (hbehind : behind = mark :: after) :
      False := by
    have hne : letters ≠ [] := by
      rw [← heq, hword]
      exact List.cons_ne_nil _ _
    refine hmarks (heq ▸ hletters.resolve_left hne) mark ?_ hmark
    rw [hbehind]
    rfl
  intro heq
  rcases List.append_eq_append_iff.mp heq with ⟨more, hmore, hrest⟩ | ⟨more, hmore, hrest⟩
  · cases more with
    | nil => exact hsame (by rw [hmore, List.append_nil]) hrest
    | cons c more =>
        have hmem : c ∈ letters := hmore ▸ List.mem_append_right word List.mem_cons_self
        have hgoes : goesOn c = true := by
          rcases hletters with rfl | hletters
          · cases hmem
          · exact List.all_eq_true.mp (List.all_eq_true.mp hgoing letters hletters) c hmem
        exact hstops.not_goesOn hgoes (by rw [hrest]; rfl)
  · cases more with
    | nil => exact hsame (by rw [hmore, List.append_nil]) hrest.symm
    | cons c more =>
        obtain ⟨rfl, -⟩ := List.cons.inj hrest
        refine hname.notMem_literalMarks ?_ hmark
        rw [← hword, hmore]
        exact List.mem_append_right letters List.mem_cons_self

theorem identifier_append (hword : Lexeme.identifier word = some (word, [])) :
    Lexeme.identifier (word ++ behind) = some (word, behind) := by
  obtain ⟨first, tail, hname, rfl | ⟨rfl, hraw⟩⟩ := exists_isName hword
  · have happend := hname.append hstops
    rw [List.cons_append, Lexeme.identifier, if_pos hname.start, happend.1, happend.2]
    rintro c rest rfl hrest
    exact hname.ne_letters hstops hmarks rfl ['r'] (.inr (by decide)) (by decide)
      (congrArg ('r' :: ·) hrest)
  · have happend := hname.append hstops
    rw [List.cons_append, List.cons_append, List.cons_append, Lexeme.identifier,
      if_pos hname.start, happend.1, happend.2]
    dsimp only
    rw [hraw]
    rfl

/-- A word is no literal. -/
theorem scan_word (hword : Lexeme.identifier word = some (word, [])) :
    scan (word ++ behind) = none := by
  obtain ⟨first, tail, hname, heq | ⟨rfl, hraw⟩⟩ := exists_isName hword
  · have hletters {mark : Char} {after : List Char} (letters : List Char)
        (hletters : letters = [] ∨ letters ∈ literalLetters) (hmark : mark ∈ literalMarks) :
        word ++ behind ≠ letters ++ mark :: after :=
      hname.ne_letters hstops hmarks heq letters hletters hmark
    have hraw {bytes : Bool} {after : List Char} (letters : List Char)
        (hmem : letters ∈ literalLetters) (htext : word ++ behind = letters ++ after) :
        stringOf letters true bytes after = none := by
      rw [stringOf, stringBody_eq_none]
      · rfl
      · intro c hc hmark
        obtain ⟨after, rfl⟩ := List.head?_eq_some_iff.mp hc
        exact hletters letters (.inr hmem) hmark htext
    rw [scan.eq_def]
    split
    · next htext => exact absurd htext (hletters [] (.inl rfl) (by decide))
    · next htext => exact absurd htext (hletters ['r'] (.inr (by decide)) (by decide))
    · next htext => exact hraw ['r'] (by decide) htext
    · next htext => exact absurd htext (hletters ['b'] (.inr (by decide)) (by decide))
    · next htext => exact hraw ['b', 'r'] (by decide) htext
    · next htext => exact absurd htext (hletters ['c'] (.inr (by decide)) (by decide))
    · next htext => exact hraw ['c', 'r'] (by decide) htext
    · next htext => exact absurd htext (hletters ['b'] (.inr (by decide)) (by decide))
    · next htext => exact absurd htext (hletters [] (.inl rfl) (by decide))
    · by_contra hnumber
      obtain ⟨found, hfound⟩ := Option.ne_none_iff_exists'.mp hnumber
      obtain ⟨c, rest, htext, hdigit⟩ := isDigit_of_number hfound
      obtain ⟨rfl, -⟩ := List.cons.inj (heq ▸ htext)
      rw [not_isDigit_of_isIdentifierStart hname.start] at hdigit
      cases hdigit
  -- A raw name has the hash of a raw string, but no quote behind it.
  · have hfirst : first ∉ literalMarks := hname.notMem_literalMarks List.mem_cons_self
    rw [List.cons_append, List.cons_append, List.cons_append, scan, stringOf, stringBody_raw]
    · rfl
    · rintro count ⟨after, hafter⟩
      rcases count with _ | _ | count
      · cases hafter
      · obtain ⟨-, hafter⟩ := List.cons.inj hafter
        exact hfirst ((List.cons.inj hafter).1 ▸ by decide)
      · obtain ⟨-, hafter⟩ := List.cons.inj hafter
        exact hfirst ((List.cons.inj hafter).1 ▸ by decide)

end Word

end MarkedRoutes.Source
