import MarkedRoutes.Proofs.Source.Progress
import Mathlib.Data.List.TakeWhile

/-!
# Where literals end

A scanner that stops inside a text does not see what stands behind it: the closing quote of a
string and the last character of an escape end it whatever follows.  Only a suffix, a number and
the text of a word could go on, so a literal that is read from its own text is read from every
longer text too, unless an identifier character stands behind it or, behind a number, a point or
the sign of an exponent.
-/

namespace MarkedRoutes.Source

open MarkedRoutes.Text

namespace Literal

variable {text taken rest : List Char}

/-- A run of characters that ends in a text, or where the text ends, ends there in longer texts. -/
theorem takeWhile_append_of_stop (test : Char → Bool) (text : List Char) {more : List Char}
    (hstop : text.dropWhile test ≠ [] ∨ ∀ c ∈ more.head?, test c = false) :
    (text ++ more).takeWhile test = text.takeWhile test ∧
      (text ++ more).dropWhile test = text.dropWhile test ++ more := by
  induction text with
  | nil =>
      cases more with
      | nil => exact ⟨rfl, rfl⟩
      | cons c more =>
          have hc : test c = false := hstop.resolve_left (fun hne => hne rfl) c rfl
          rw [List.nil_append, List.takeWhile_cons, List.dropWhile_cons, hc]
          exact ⟨rfl, rfl⟩
  | cons c text ih =>
      rw [List.cons_append, List.takeWhile_cons, List.takeWhile_cons, List.dropWhile_cons,
        List.dropWhile_cons]
      split_ifs with hc
      · rw [List.dropWhile_cons, if_pos hc] at hstop
        exact ⟨congrArg (c :: ·) (ih hstop).1, (ih hstop).2⟩
      · exact ⟨rfl, rfl⟩

/-! ### Strings and characters -/

theorem bracedDigits_append {value count result : ℕ}
    (hread : bracedDigits value count text = some (result, taken, rest)) (more : List Char) :
    bracedDigits value count (text ++ more) = some (result, taken, rest ++ more) := by
  fun_induction bracedDigits value count text generalizing result taken rest <;>
    grind [bracedDigits, Option.map_eq_some_iff]

theorem escape_append {bytes : Bool} {meant : Char}
    (hread : escape bytes text = some (meant, taken, rest)) (more : List Char) :
    escape bytes (text ++ more) = some (meant, taken, rest ++ more) := by
  have hdigits (text taken rest : List Char) (result : ℕ)
      (hread : bracedDigits 0 0 text = some (result, taken, rest)) :
      bracedDigits 0 0 (text ++ more) = some (result, taken, rest ++ more) :=
    bracedDigits_append hread more
  unfold escape at hread
  grind [escape, Option.map_eq_some_iff]

theorem quotedRest_nil (bytes : Bool) (fuel : ℕ) : quotedRest bytes fuel [] = none := by
  cases fuel <;> rfl

/-- A string ends at its closing quote, whatever stands behind it. -/
theorem quotedRest_append {bytes : Bool} {fuel : ℕ} {value : List Char}
    (hread : quotedRest bytes fuel text = some (value, taken, rest)) (extra : ℕ)
    (more : List Char) :
    quotedRest bytes (extra + fuel) (text ++ more) = some (value, taken, rest ++ more) := by
  -- The blanks behind an escaped line end stop before the closing quote.
  have hblanks {fuel : ℕ} {text : List Char} {found : List Char × List Char × List Char}
      (hread : quotedRest bytes fuel (text.dropWhile isContinuationBlank) = some found) :
      (text ++ more).takeWhile isContinuationBlank = text.takeWhile isContinuationBlank ∧
        (text ++ more).dropWhile isContinuationBlank =
          text.dropWhile isContinuationBlank ++ more := by
    refine takeWhile_append_of_stop _ _ (.inl fun hnil => ?_)
    rw [hnil, quotedRest_nil] at hread
    cases hread
  fun_induction quotedRest bytes fuel text generalizing value taken rest with
  | case1 => cases hread
  | case2 => cases hread
  | case3 fuel text =>
      cases hread
      rfl
  | case4 fuel text ih =>
      obtain ⟨found, hfound, heq⟩ := Option.map_eq_some_iff.mp hread
      cases heq
      rw [List.cons_append, List.cons_append, Nat.add_succ, quotedRest, ih hfound]
      rfl
  | case5 => cases hread
  | case6 fuel text =>
      rename_i blanks ih
      obtain ⟨found, hfound, heq⟩ := Option.map_eq_some_iff.mp hread
      cases heq
      rw [List.cons_append, List.cons_append, Nat.add_succ, quotedRest, (hblanks hfound).1,
        (hblanks hfound).2, ih hfound]
      rfl
  | case7 fuel text =>
      rename_i blanks ih
      obtain ⟨found, hfound, heq⟩ := Option.map_eq_some_iff.mp hread
      cases heq
      rw [List.cons_append, List.cons_append, List.cons_append, Nat.add_succ, quotedRest,
        (hblanks hfound).1, (hblanks hfound).2, ih hfound]
      rfl
  | case8 => cases hread
  | case9 fuel text hfeed hreturn meant escaped after hescape ih =>
      obtain ⟨found, hfound, heq⟩ := Option.map_eq_some_iff.mp hread
      cases heq
      have happend := escape_append hescape more
      rw [List.cons_append, Nat.add_succ, quotedRest, happend]
      · dsimp only
        rw [ih hfound]
        rfl
      · rintro after hafter
        rw [hafter] at happend
        cases happend
      · rintro after hafter
        rw [hafter] at happend
        cases happend
  | case10 fuel c text hquote hreturn hbare hfeed hboth hslash ih =>
      obtain ⟨found, hfound, heq⟩ := Option.map_eq_some_iff.mp hread
      cases heq
      rw [List.cons_append, Nat.add_succ, quotedRest, ih hfound]
      · rfl
      all_goals grind

theorem dropText_append {expected : List Char} (hdrop : dropText expected text = some rest)
    (more : List Char) : dropText expected (text ++ more) = some (rest ++ more) := by
  fun_induction dropText expected text with
  | case1 text =>
      cases hdrop
      rfl
  | case2 => cases hdrop
  | case3 expected others text ih =>
      rw [List.cons_append, dropText, if_pos rfl]
      exact ih hdrop
  | case4 => cases hdrop

/-- What a raw string needs behind it is not found in a text without quotes. -/
theorem rawRest_of_notMem {hashes : List Char} (hquote : '"' ∉ text) :
    rawRest hashes text = none := by
  fun_induction rawRest hashes text <;> grind

/-- Too few hashes in front of a quote are not made more by what stands behind it. -/
theorem dropText_eq_none_append {count : ℕ}
    (hdrop : dropText (List.replicate count '#') text = none)
    (hquote : '"' ∈ text) (more : List Char) :
    dropText (List.replicate count '#') (text ++ more) = none := by
  induction count generalizing text with
  | zero => cases hdrop
  | succ count ih =>
      cases text with
      | nil => cases hquote
      | cons c text =>
          rw [List.replicate_succ, dropText] at hdrop
          rw [List.replicate_succ, List.cons_append, dropText]
          split_ifs at hdrop ⊢ with hc
          · refine ih hdrop ?_
            rcases List.mem_cons.mp hquote with rfl | hmem
            · cases hc
            · exact hmem
          · rfl

/-- A raw string ends at its closing hashes, whatever stands behind them. -/
theorem rawRest_append {count : ℕ} {value : List Char}
    (hread : rawRest (List.replicate count '#') text = some (value, taken, rest))
    (more : List Char) :
    rawRest (List.replicate count '#') (text ++ more) = some (value, taken, rest ++ more) := by
  generalize hhashes : List.replicate count '#' = hashes at hread ⊢
  fun_induction rawRest hashes text generalizing value taken rest with
  | case1 => cases hread
  | case2 text ih =>
      obtain ⟨found, hfound, heq⟩ := Option.map_eq_some_iff.mp hread
      cases heq
      rw [List.cons_append, List.cons_append, rawRest, ih hfound]
      rfl
  | case3 => cases hread
  | case4 text after hdrop =>
      cases hread
      rw [List.cons_append, rawRest, dropText_append hdrop]
  | case5 text hdrop ih =>
      obtain ⟨found, hfound, heq⟩ := Option.map_eq_some_iff.mp hread
      cases heq
      have hquote : '"' ∈ text := by
        by_contra hquote
        rw [rawRest_of_notMem hquote] at hfound
        cases hfound
      subst hhashes
      rw [List.cons_append, rawRest, dropText_eq_none_append hdrop hquote, ih hfound]
      rfl
  | case6 c text hreturn hbare hquote ih =>
      obtain ⟨found, hfound, heq⟩ := Option.map_eq_some_iff.mp hread
      cases heq
      rw [List.cons_append, rawRest, ih hfound]
      · rfl
      all_goals grind

theorem stringBody_append {raw bytes : Bool} {value : List Char}
    (hread : stringBody raw bytes text = some (value, taken, rest)) (more : List Char) :
    stringBody raw bytes (text ++ more) = some (value, taken, rest ++ more) := by
  unfold stringBody at hread ⊢
  split_ifs at hread ⊢
  · dsimp only at hread ⊢
    split at hread
    · next body hbody =>
      obtain ⟨found, hfound, heq⟩ := Option.map_eq_some_iff.mp hread
      cases heq
      have hne : text.dropWhile (· == '#') ≠ [] := hbody ▸ List.cons_ne_nil _ _
      obtain ⟨htake, hdrop⟩ := takeWhile_append_of_stop (· == '#') text (.inl hne)
      rw [htake, hdrop, hbody]
      have hhashes : text.takeWhile (· == '#') =
          List.replicate (text.takeWhile (· == '#')).length '#' :=
        List.eq_replicate_iff.mpr ⟨rfl, fun c hc => by simpa using List.mem_takeWhile_imp hc⟩
      rw [hhashes] at hfound
      change Option.map _ (rawRest _ (body ++ more)) = _
      rw [hhashes, rawRest_append hfound]
      rfl
    · cases hread
  · split at hread
    · next body =>
      obtain ⟨found, hfound, heq⟩ := Option.map_eq_some_iff.mp hread
      cases heq
      have happend := quotedRest_append hfound more.length more
      change Option.map _ (quotedRest bytes ((body ++ more).length + 1) (body ++ more)) = _
      rw [List.length_append, Nat.add_comm body.length, Nat.add_assoc, happend]
      rfl
    · cases hread

theorem characterRest_append {bytes : Bool}
    (hread : characterRest bytes text = some (taken, rest)) (more : List Char) :
    characterRest bytes (text ++ more) = some (taken, rest ++ more) := by
  unfold characterRest at hread
  split at hread
  · next text =>
    split at hread
    · next meant escaped after hescape =>
      cases hread
      rw [List.cons_append, characterRest, escape_append hescape]
      rfl
    · cases hread
  · next c text hslash =>
    cases hread
    rw [List.cons_append, List.cons_append, characterRest]
    exact hslash
  · cases hread

/-! ### Suffixes -/

/-- An identifier character goes on with a word, a number or a suffix. -/
def goesOn (c : Char) : Bool := isIdentifierStart c || isIdentifierContinue c

/-- What stands behind a word does not go on with it. -/
def Stops (behind : List Char) : Prop := ∀ c ∈ behind.head?, goesOn c = false

theorem stops_nil : Stops [] := fun _ hc => nomatch hc

section Stops

variable {behind : List Char} (hstops : Stops behind) {c : Char}
include hstops

theorem Stops.not_start (hc : c ∈ behind.head?) : isIdentifierStart c = false :=
  (Bool.or_eq_false_iff.mp (hstops c hc)).1

theorem Stops.not_continue (hc : c ∈ behind.head?) : isIdentifierContinue c = false :=
  (Bool.or_eq_false_iff.mp (hstops c hc)).2

theorem Stops.not_goesOn (hc : goesOn c = true) : c ∉ behind.head? := by
  intro hmem
  rw [hstops c hmem] at hc
  cases hc

theorem Stops.append (text : List Char) :
    (text ++ behind).takeWhile isIdentifierContinue = text.takeWhile isIdentifierContinue ∧
      (text ++ behind).dropWhile isIdentifierContinue =
        text.dropWhile isIdentifierContinue ++ behind :=
  takeWhile_append_of_stop _ _ (.inr fun _ hc => hstops.not_continue hc)

theorem withSuffix_append (taken rest : List Char) :
    withSuffix taken (rest ++ behind) =
      ((withSuffix taken rest).1, (withSuffix taken rest).2 ++ behind) := by
  cases rest with
  | nil =>
      cases behind with
      | nil => rfl
      | cons c behind =>
          rw [List.nil_append, withSuffix, hstops.not_start rfl]
          rfl
  | cons c rest =>
      have happend := hstops.append (c :: rest)
      rw [List.cons_append] at happend ⊢
      rw [withSuffix, withSuffix, happend.1, happend.2]
      split_ifs <;> rfl

theorem stringOf_append {lead : List Char} {raw bytes : Bool}
    (hread : stringOf lead raw bytes text = some (taken, rest)) :
    stringOf lead raw bytes (text ++ behind) = some (taken, rest ++ behind) := by
  obtain ⟨⟨value, body, after⟩, hbody, heq⟩ := Option.map_eq_some_iff.mp hread
  dsimp only at heq
  rw [stringOf, stringBody_append hbody, Option.map_some]
  dsimp only
  rw [withSuffix_append hstops, heq]

end Stops

/-- A suffix takes everything when nothing is left behind it. -/
theorem eq_of_withSuffix {digits : List Char}
    (hsuffix : withSuffix digits rest = (taken, [])) : taken = digits ++ rest := by
  cases rest with
  | nil => rw [List.append_nil, ← (Prod.mk.inj hsuffix).1]
  | cons c rest =>
      rw [withSuffix] at hsuffix
      split_ifs at hsuffix
      · obtain ⟨htaken, hrest⟩ := Prod.mk.inj hsuffix
        have hall := List.takeWhile_append_dropWhile (p := isIdentifierContinue) (l := c :: rest)
        rw [hrest, List.append_nil] at hall
        rw [← htaken, hall]
      · cases (Prod.mk.inj hsuffix).2

/-! ### Numbers -/

def isDigitMark (c : Char) : Bool := c.isDigit || c == '_'

theorem goesOn_of_isDigitMark {c : Char} (hc : isDigitMark c = true) : goesOn c = true := by
  rw [isDigitMark, Bool.or_eq_true, beq_iff_eq] at hc
  rcases hc with hdigit | rfl
  · have hascii : c.toNat < 0x80 := by
      rw [Char.isDigit, Bool.and_eq_true, decide_eq_true_eq, decide_eq_true_eq] at hdigit
      have hhigh : c.toNat ≤ 57 := hdigit.2
      omega
    rw [goesOn, isIdentifierContinue, if_pos hascii, Char.isAlphanum, hdigit]
    simp
  · decide

/-- Whether a number goes on with a text although no identifier character stands there: with a
point, unless another point or a name stands behind it, or with the sign of an exponent. -/
def numberGoesOn (piece : List Char) : List Char → Bool
  | '.' :: after =>
    piece.getLast? == some '.' ||
      match after with
      | next :: _ => !(next == '.' || isIdentifierStart next)
      | [] => true
  | sign :: _ =>
    (sign == '+' || sign == '-') && (piece.getLast? == some 'e' || piece.getLast? == some 'E') &&
      piece.dropLast.all fun c => isDigitMark c || c == '.'
  | [] => false

/-- The fraction behind the whole digits of a number, and what follows it. -/
def fraction (whole : List Char) : List Char → List Char × List Char
  | '.' :: after =>
    match after with
    | next :: _ =>
      if next == '.' || isIdentifierStart next then (whole, '.' :: after)
      else (whole ++ '.' :: after.takeWhile isDigitMark, after.dropWhile isDigitMark)
    | [] => (whole ++ ['.'], [])
  | behind => (whole, behind)

theorem fraction_of_ne {behind : List Char} (hpoint : behind.head? ≠ some '.')
    (whole : List Char) : fraction whole behind = (whole, behind) := by
  unfold fraction
  split
  · exact absurd rfl hpoint
  · rfl

/-- The digits of a number and its fraction, and what follows them. -/
def mantissa (text : List Char) : List Char × List Char :=
  fraction (text.takeWhile isDigitMark) (text.dropWhile isDigitMark)

/-- The exponent and the suffix of a number. -/
def ending (digits rest : List Char) : Scan :=
  match rest with
  | mark :: after =>
    if mark == 'e' || mark == 'E' then
      match exponent after with
      | some (taken, final) => some (withSuffix (digits ++ mark :: taken) final)
      | none => some (withSuffix digits rest)
    else some (withSuffix digits rest)
  | [] => some (digits, [])

theorem decimal_eq (text : List Char) :
    number.decimal isDigitMark text = ending (mantissa text).1 (mantissa text).2 :=
  rfl

/-- The digits of a number are digits, underscores and perhaps a point. -/
theorem mem_mantissa {c : Char} (hmem : c ∈ (mantissa text).1) :
    isDigitMark c = true ∨ c = '.' := by
  have htake {text : List Char} (hmem : c ∈ text.takeWhile isDigitMark) : isDigitMark c = true :=
    List.mem_takeWhile_imp hmem
  unfold mantissa fraction at hmem
  grind

/-- The sign in front of the digits of an exponent. -/
def signed : List Char → List Char × List Char
  | c :: rest => if c = '+' ∨ c = '-' then ([c], rest) else ([], c :: rest)
  | [] => ([], [])

theorem exponent_eq (text : List Char) : exponent text =
    if ((signed text).2.takeWhile isDigitMark).any Char.isDigit then
      some ((signed text).1 ++ (signed text).2.takeWhile isDigitMark,
        (signed text).2.dropWhile isDigitMark)
    else none := by
  rcases text with _ | ⟨c, rest⟩
  · rfl
  · by_cases hplus : c = '+'
    · subst hplus
      rfl
    by_cases hminus : c = '-'
    · subst hminus
      rfl
    have hsigned : signed (c :: rest) = ([], c :: rest) := by
      rw [signed, if_neg (not_or.mpr ⟨hplus, hminus⟩)]
    rw [hsigned]
    unfold exponent
    split
    next heq =>
    split at heq
    · next hcons => exact absurd (List.cons.inj hcons).1 hplus
    · next hcons => exact absurd (List.cons.inj hcons).1 hminus
    · cases heq
      rfl

theorem signed_append (hne : text ≠ []) (more : List Char) :
    signed (text ++ more) = ((signed text).1, (signed text).2 ++ more) := by
  obtain ⟨c, text, rfl⟩ := List.exists_cons_of_ne_nil hne
  rw [List.cons_append, signed, signed]
  split_ifs <;> rfl

/-- The letters that give the base of a number after its zero. -/
def isBaseLetter (c : Char) : Bool := c == 'x' || c == 'o' || c == 'b'

theorem number_of_base {base : Char} (hbase : isBaseLetter base = true) (rest : List Char) :
    number ('0' :: base :: rest) =
      if (rest.takeWhile isIdentifierContinue).isEmpty then none
      else some ('0' :: base :: rest.takeWhile isIdentifierContinue,
        rest.dropWhile isIdentifierContinue) :=
  if_pos hbase

theorem goesOn_of_isBaseLetter {c : Char} (hc : isBaseLetter c = true) : goesOn c = true := by
  rw [isBaseLetter, Bool.or_eq_true, Bool.or_eq_true, beq_iff_eq, beq_iff_eq, beq_iff_eq] at hc
  rcases hc with (rfl | rfl) | rfl <;> decide

/-- A number without a letter for its base is written in base ten. -/
theorem number_eq_decimal {c : Char}
    (hbase : c = '0' → ∀ base ∈ rest.head?, isBaseLetter base = false) :
    number (c :: rest) = if c.isDigit then number.decimal isDigitMark (c :: rest) else none := by
  rcases rest with _ | ⟨base, rest⟩
  · rw [number]
    · rfl
    · rintro base rest - hrest
      cases hrest
  · by_cases hzero : c = '0'
    · subst hzero
      exact if_neg (Bool.eq_false_iff.mp (hbase rfl base rfl))
    · rw [number]
      · rfl
      · exact fun _ _ hc => absurd hc hzero

theorem isDigit_of_number {found : List Char × List Char} (hread : number text = some found) :
    ∃ c rest, text = c :: rest ∧ c.isDigit = true := by
  unfold number at hread
  split at hread
  · exact ⟨_, _, rfl, by decide⟩
  · next c rest hzero =>
    split_ifs at hread with hdigit
    exact ⟨c, rest, rfl, hdigit⟩
  · cases hread

theorem scan_of_isDigit {c : Char} (hdigit : c.isDigit = true) (rest : List Char) :
    scan (c :: rest) = number (c :: rest) := by
  have hne {letter : Char} (hletter : letter.isDigit = false) : c ≠ letter := by
    rintro rfl
    rw [hdigit] at hletter
    cases hletter
  rw [scan]
  all_goals exact fun _ heq => hne (by decide) (List.cons.inj heq).1

section Behind

variable {behind : List Char} (hstops : Stops behind)
include hstops

theorem digitMarks_append (text : List Char) :
    (text ++ behind).takeWhile isDigitMark = text.takeWhile isDigitMark ∧
      (text ++ behind).dropWhile isDigitMark = text.dropWhile isDigitMark ++ behind :=
  takeWhile_append_of_stop _ _ (.inr fun _ hc => Bool.eq_false_iff.mpr fun hmark =>
    hstops.not_goesOn (goesOn_of_isDigitMark hmark) hc)

theorem exponent_append (hne : text ≠ []) :
    exponent (text ++ behind) = (exponent text).map fun found => (found.1, found.2 ++ behind) := by
  have hdigits := digitMarks_append hstops (signed text).2
  rw [exponent_eq, exponent_eq, signed_append hne]
  dsimp only
  rw [hdigits.1, hdigits.2]
  split_ifs <;> rfl

/-- What begins with neither a sign nor an identifier character is no exponent. -/
theorem exponent_eq_none (hplus : behind.head? ≠ some '+') (hminus : behind.head? ≠ some '-') :
    exponent behind = none := by
  have hsigned : signed behind = ([], behind) := by
    unfold signed
    grind
  have hdigits := digitMarks_append hstops []
  rw [List.nil_append] at hdigits
  rw [exponent_eq, hsigned, hdigits.1]
  rfl

/-- Behind the `e` of a number that does not go on there is no exponent. -/
theorem exponent_behind_mark {digits : List Char} {mark : Char}
    (hdigits : ∀ c ∈ digits, isDigitMark c = true ∨ c = '.')
    (hmark : (mark == 'e' || mark == 'E') = true)
    (hgoes : numberGoesOn (digits ++ [mark]) behind = false) : exponent behind = none := by
  have hall : (digits.all fun c => isDigitMark c || c == '.') = true := by
    simpa [List.all_eq_true] using hdigits
  have hsign {sign : Char} (hsign : sign = '+' ∨ sign = '-') : behind.head? ≠ some sign := by
    intro hhead
    obtain ⟨after, rfl⟩ := List.head?_eq_some_iff.mp hhead
    rcases hsign with rfl | rfl <;> simp [numberGoesOn, hall] at hgoes hmark <;> grind
  exact exponent_eq_none hstops (hsign (.inl rfl)) (hsign (.inr rfl))

theorem ending_append {digits : List Char}
    (hdigits : ∀ c ∈ digits, isDigitMark c = true ∨ c = '.')
    (hread : ending digits rest = some (taken, []))
    (hgoes : numberGoesOn taken behind = false) :
    ending digits (rest ++ behind) = some (taken, behind) := by
  have hsuffix {digits rest : List Char}
      (hsuffix : some (withSuffix digits rest) = some (taken, [])) :
      some (withSuffix digits (rest ++ behind)) = some (taken, behind) := by
    rw [withSuffix_append hstops, Option.some.inj hsuffix]
    rfl
  cases rest with
  | nil =>
      cases behind with
      | nil => exact hread
      | cons c behind =>
          have hmark : (c == 'e' || c == 'E') = false := by
            rw [Bool.eq_false_iff]
            intro hmark
            have hgoes : goesOn c = true := by
              rw [Bool.or_eq_true, beq_iff_eq, beq_iff_eq] at hmark
              rcases hmark with rfl | rfl <;> decide
            exact hstops.not_goesOn hgoes rfl
          have hread : some (withSuffix digits []) = some (taken, []) := hread
          rw [List.nil_append, ending, hmark]
          exact hsuffix hread
  | cons mark after =>
      rw [List.cons_append, ending]
      rw [ending] at hread
      split_ifs at hread ⊢ with hmark
      · cases after with
        | nil =>
            have htaken := eq_of_withSuffix (Option.some.inj hread)
            rw [List.nil_append, exponent_behind_mark hstops hdigits hmark (htaken ▸ hgoes)]
            exact hsuffix hread
        | cons next after =>
            rw [exponent_append hstops (List.cons_ne_nil next after)]
            cases hexponent : exponent (next :: after) <;> rw [hexponent] at hread <;>
              exact hsuffix hread
      · exact hsuffix hread

theorem fraction_append {whole after : List Char}
    (hgoes : numberGoesOn (whole ++ after) behind = false) :
    fraction whole (after ++ behind) =
      ((fraction whole after).1, (fraction whole after).2 ++ behind) := by
  by_cases hpoint : (after ++ behind).head? = some '.'
  · rcases after with _ | ⟨c, after⟩
    · rcases behind with _ | ⟨c, _ | ⟨next, after⟩⟩
      · cases hpoint
      · obtain rfl : c = '.' := Option.some.inj hpoint
        simp [numberGoesOn] at hgoes
      · obtain rfl : c = '.' := Option.some.inj hpoint
        have hnext : (next == '.' || isIdentifierStart next) = true := by
          rw [numberGoesOn, Bool.or_eq_false_iff, Bool.not_eq_false'] at hgoes
          exact hgoes.2
        rw [List.nil_append, fraction, if_pos hnext]
        rfl
    · obtain rfl : c = '.' := Option.some.inj hpoint
      rcases after with _ | ⟨next, after⟩
      · rcases behind with _ | ⟨c, behind⟩
        · rfl
        · have hpoint : c ≠ '.' := by
            rintro rfl
            simp [numberGoesOn] at hgoes
          have hempty := digitMarks_append hstops []
          rw [List.nil_append] at hempty
          rw [List.cons_append, List.nil_append, fraction, hempty.1, hempty.2,
            hstops.not_start rfl, beq_eq_false_iff_ne.mpr hpoint]
          rfl
      · have hdigits := digitMarks_append hstops (next :: after)
        rw [List.cons_append] at hdigits
        rw [List.cons_append, List.cons_append, fraction, fraction, hdigits.1, hdigits.2]
        split_ifs <;> rfl
  · have hafter : after.head? ≠ some '.' := by
      intro hhead
      exact hpoint (by rw [List.head?_append, hhead]; rfl)
    rw [fraction_of_ne hpoint, fraction_of_ne hafter]

theorem mantissa_append (hgoes : numberGoesOn text behind = false) :
    mantissa (text ++ behind) = ((mantissa text).1, (mantissa text).2 ++ behind) := by
  have hdigits := digitMarks_append hstops text
  rw [mantissa, hdigits.1, hdigits.2]
  refine fraction_append hstops ?_
  rwa [List.takeWhile_append_dropWhile]

theorem decimal_append (hread : number.decimal isDigitMark text = some (text, []))
    (hgoes : numberGoesOn text behind = false) :
    number.decimal isDigitMark (text ++ behind) = some (text, behind) := by
  rw [decimal_eq] at hread ⊢
  rw [mantissa_append hstops hgoes]
  exact ending_append hstops (fun c => mem_mantissa) hread hgoes

theorem number_append (hread : number text = some (text, []))
    (hgoes : numberGoesOn text behind = false) : number (text ++ behind) = some (text, behind) := by
  by_cases hbased : ∃ base rest, text = '0' :: base :: rest ∧ isBaseLetter base = true
  · obtain ⟨base, rest, rfl, hbase⟩ := hbased
    have happend := hstops.append rest
    rw [number_of_base hbase] at hread
    rw [List.cons_append, List.cons_append, number_of_base hbase, happend.1, happend.2]
    split_ifs at hread ⊢
    obtain ⟨htaken, hrest⟩ := Prod.mk.inj (Option.some.inj hread)
    rw [htaken, hrest]
    rfl
  · obtain ⟨c, rest, rfl, hdigit⟩ := isDigit_of_number hread
    have hbase : c = '0' → ∀ base ∈ rest.head?, isBaseLetter base = false := by
      rintro rfl base hhead
      obtain ⟨after, rfl⟩ := List.head?_eq_some_iff.mp hhead
      exact Bool.eq_false_iff.mpr fun hbase => hbased ⟨base, after, rfl, hbase⟩
    rw [number_eq_decimal hbase, if_pos hdigit] at hread
    rw [List.cons_append, number_eq_decimal, if_pos hdigit]
    · exact decimal_append hstops hread hgoes
    · intro hzero base hhead
      rcases rest with _ | ⟨d, rest⟩
      · exact Bool.eq_false_iff.mpr fun hbase =>
          hstops.not_goesOn (goesOn_of_isBaseLetter hbase) hhead
      · exact hbase hzero base hhead

/-- A literal ends where it ends on its own when neither an identifier character nor, behind a
number, a point or a sign goes on with it. -/
theorem scan_append (hread : scan text = some (text, []))
    (hgoes : text.head?.any Char.isDigit = true → numberGoesOn text behind = false) :
    scan (text ++ behind) = some (text, behind) := by
  unfold scan at hread
  split at hread
  · exact stringOf_append hstops hread
  · exact stringOf_append hstops hread
  · exact stringOf_append hstops hread
  · exact stringOf_append hstops hread
  · exact stringOf_append hstops hread
  · exact stringOf_append hstops hread
  · exact stringOf_append hstops hread
  · next rest =>
    obtain ⟨⟨body, after⟩, hbody, heq⟩ := Option.map_eq_some_iff.mp hread
    rw [List.cons_append, List.cons_append, scan, characterRest_append hbody, Option.map_some]
    dsimp only at heq ⊢
    rw [withSuffix_append hstops, heq]
    rfl
  · next rest =>
    obtain ⟨⟨body, after⟩, hbody, heq⟩ := Option.map_eq_some_iff.mp hread
    rw [List.cons_append, scan, characterRest_append hbody, Option.map_some]
    dsimp only at heq ⊢
    rw [withSuffix_append hstops, heq]
    rfl
  · obtain ⟨c, rest, rfl, hdigit⟩ := isDigit_of_number hread
    rw [List.cons_append, scan_of_isDigit hdigit]
    exact number_append hstops hread (hgoes hdigit)

end Behind

end Literal

end MarkedRoutes.Source
