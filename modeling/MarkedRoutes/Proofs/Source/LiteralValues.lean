import MarkedRoutes.Source.Literal
import MarkedRoutes.Text.Quoted
import Mathlib.Tactic.IntervalCases

/-!
# Values of string literals

A text that is written as a string literal is the value of the literal, whatever characters are
in it.
-/

namespace MarkedRoutes.Source.Literal

open MarkedRoutes.Text

variable {rest : List Char}

/-! ### Code points -/

theorem hexValue_digitChar {digit : ℕ} (hdigit : digit < 16) :
    hexValue digit.digitChar = some digit := by
  interval_cases digit <;> rfl

theorem digitChar_ne {digit : ℕ} (hdigit : digit < 16) :
    digit.digitChar ≠ '\x7d' ∧ digit.digitChar ≠ '_' := by
  interval_cases digit <;> decide

theorem bracedDigits_digitChar {digit value count : ℕ} (hdigit : digit < 16) (hcount : count < 6) :
    bracedDigits value count (digit.digitChar :: rest) =
      (bracedDigits (value * 16 + digit) (count + 1) rest).map fun found =>
        (found.1, digit.digitChar :: found.2.1, found.2.2) := by
  rw [bracedDigits, hexValue_digitChar hdigit]
  · dsimp only
    rw [if_neg hcount.ne]
  · exact (digitChar_ne hdigit).1
  · exact (digitChar_ne hdigit).2

/-- The digits of a number are read one by one, and the number is behind those before. -/
theorem bracedDigits_toDigits {number value count : ℕ}
    (hcount : count + (Nat.toDigits 16 number).length ≤ 6) :
    bracedDigits value count (Nat.toDigits 16 number ++ rest) =
      (bracedDigits (value * 16 ^ (Nat.toDigits 16 number).length + number)
        (count + (Nat.toDigits 16 number).length) rest).map fun found =>
          (found.1, Nat.toDigits 16 number ++ found.2.1, found.2.2) := by
  induction number using Nat.strongRec generalizing rest with
  | ind number ih =>
      rcases Nat.lt_or_ge number 16 with hsmall | hlarge
      · rw [Nat.toDigits_of_lt_base hsmall] at hcount ⊢
        rw [List.length_singleton] at hcount
        rw [List.singleton_append, bracedDigits_digitChar hsmall hcount, List.length_singleton,
          pow_one]
        rfl
      · rw [Nat.toDigits_of_base_le (by decide) hlarge] at hcount ⊢
        have hdigit : number % 16 < 16 := Nat.mod_lt number (by decide)
        rw [List.length_append, List.length_singleton] at hcount
        rw [List.append_assoc, ih (number / 16) (by omega) (by omega), List.singleton_append,
          bracedDigits_digitChar hdigit (by omega), Option.map_map, List.length_append,
          List.length_singleton]
        have hvalue : (value * 16 ^ (Nat.toDigits 16 (number / 16)).length + number / 16) * 16 +
            number % 16 = value * 16 ^ ((Nat.toDigits 16 (number / 16)).length + 1) + number := by
          rw [pow_succ, ← Nat.mul_assoc, Nat.add_mul, Nat.add_assoc, Nat.div_add_mod']
        rw [hvalue, ← Nat.add_assoc]
        congr 1
        funext found
        rw [Function.comp_apply, List.append_assoc]
        rfl

theorem length_hexDigits_le (c : Char) : (hexDigits c.toNat).length ≤ 6 := by
  have hpoint : c.toNat < 16 ^ 6 := by
    rcases c.valid with hpoint | ⟨-, hpoint⟩ <;> exact hpoint.trans (by decide)
  exact (Nat.length_toDigits_le_iff (by decide) (by decide)).mpr hpoint

theorem bracedDigits_hexDigits (c : Char) :
    bracedDigits 0 0 (hexDigits c.toNat ++ '\x7d' :: rest) =
      some (c.toNat, hexDigits c.toNat ++ ['\x7d'], rest) := by
  have hcount : 0 + (Nat.toDigits 16 c.toNat).length ≤ 6 := by
    rw [Nat.zero_add]
    exact length_hexDigits_le c
  have hne : 0 + (Nat.toDigits 16 c.toNat).length ≠ 0 := by
    rw [Nat.zero_add]
    exact Nat.length_toDigits_pos.ne'
  rw [hexDigits, bracedDigits_toDigits hcount, bracedDigits, if_neg hne, Nat.zero_mul, Nat.zero_add]
  rfl

theorem charOfPoint_toNat (c : Char) : charOfPoint c.toNat = some c := by
  have hvalid : (c.toNat < 0xD800 || (0xDFFF < c.toNat && c.toNat < 0x110000)) = true := by
    rcases c.valid with hpoint | ⟨hfirst, hlast⟩
    · exact Bool.or_eq_true_iff.mpr (Or.inl (decide_eq_true hpoint))
    · exact Bool.or_eq_true_iff.mpr (Or.inr (Bool.and_eq_true_iff.mpr
        ⟨decide_eq_true hfirst, decide_eq_true hlast⟩))
  rw [charOfPoint, if_pos hvalid, Char.ofNat_toNat]

theorem escape_codePoint (c : Char) :
    escape false ("u\x7b".toList ++ (hexDigits c.toNat ++ '\x7d' :: rest)) =
      some (c, "u\x7b".toList ++ (hexDigits c.toNat ++ ['\x7d']), rest) := by
  have hletters : "u\x7b".toList = ['u', '\x7b'] := rfl
  rw [hletters, List.cons_append, List.singleton_append, escape, if_neg Bool.false_ne_true,
    bracedDigits_hexDigits]
  dsimp only
  rw [charOfPoint_toNat]
  rfl

/-! ### Strings -/

theorem quotedRest_codePoint (c : Char) (fuel : ℕ) :
    quotedRest false (fuel + 1) ("\\u\x7b".toList ++ hexDigits c.toNat ++ ['\x7d'] ++ rest) =
      (quotedRest false fuel rest).map fun found =>
        (c :: found.1, "\\u\x7b".toList ++ hexDigits c.toNat ++ ['\x7d'] ++ found.2.1,
          found.2.2) := by
  have hescape := @escape_codePoint rest c
  have htext : "\\u\x7b".toList ++ hexDigits c.toNat ++ ['\x7d'] ++ rest =
      '\\' :: ("u\x7b".toList ++ (hexDigits c.toNat ++ '\x7d' :: rest)) := by simp
  rw [htext, quotedRest, hescape]
  · simp
  · exact fun _ hline => nomatch hline
  · exact fun _ hline => nomatch hline

theorem quotedRest_plain {c : Char} (hquote : c ≠ '"') (hreturn : c ≠ '\r') (hslash : c ≠ '\\')
    (fuel : ℕ) :
    quotedRest false (fuel + 1) (c :: rest) =
      (quotedRest false fuel rest).map fun found => (c :: found.1, c :: found.2.1, found.2.2) := by
  rw [quotedRest]
  all_goals grind

theorem quotedRest_escapeChar (c : Char) (fuel : ℕ) :
    quotedRest false (fuel + 1) (escapeChar c ++ rest) =
      (quotedRest false fuel rest).map fun found =>
        (c :: found.1, escapeChar c ++ found.2.1, found.2.2) := by
  rw [escapeChar]
  split_ifs with hnul htab hline hreturn hquote hslash hpoint
  · obtain rfl := beq_iff_eq.mp hnul
    rfl
  · obtain rfl := beq_iff_eq.mp htab
    rfl
  · obtain rfl := beq_iff_eq.mp hline
    rfl
  · obtain rfl := beq_iff_eq.mp hreturn
    rfl
  · obtain rfl := beq_iff_eq.mp hquote
    rfl
  · obtain rfl := beq_iff_eq.mp hslash
    rfl
  · exact quotedRest_codePoint c fuel
  · exact quotedRest_plain (by simpa using hquote) (by simpa using hreturn) (by simpa using hslash)
      fuel

/-- Up to its closing quote a literal has the text for its value. -/
theorem quotedRest_literalBody (text : List Char) {fuel : ℕ} (hfuel : text.length < fuel) :
    quotedRest false fuel (literalBody text ++ '"' :: rest) =
      some (text, literalBody text ++ ['"'], rest) := by
  induction text generalizing fuel with
  | nil =>
      cases fuel with
      | zero => cases hfuel
      | succ fuel => rfl
  | cons c text ih =>
      cases fuel with
      | zero => cases hfuel
      | succ fuel =>
          have hmore := ih (Nat.lt_of_succ_lt_succ hfuel)
          rw [literalBody]
          split_ifs with hnul
          · rw [Bool.and_eq_true, beq_iff_eq] at hnul
            obtain ⟨rfl, -⟩ := hnul
            have hread : ∀ more, quotedRest false (fuel + 1) ("\\x00".toList ++ more) =
                (quotedRest false fuel more).map fun found =>
                  ('\x00' :: found.1, "\\x00".toList ++ found.2.1, found.2.2) := fun _ => rfl
            rw [List.append_assoc, hread, hmore, Option.map_some, List.append_assoc]
          · rw [List.append_assoc, quotedRest_escapeChar, hmore, Option.map_some,
              List.append_assoc]

theorem length_le_literalBody (text : List Char) : text.length ≤ (literalBody text).length := by
  have hescape : ∀ c, 1 ≤ (escapeChar c).length := by
    intro c
    rw [escapeChar]
    split_ifs <;> simp
  induction text with
  | nil => exact Nat.le_refl _
  | cons c text ih =>
      have hone : 1 ≤ (if c == '\x00' && startsOctal text then "\\x00".toList
          else escapeChar c).length := by
        split_ifs
        · decide
        · exact hescape c
      rw [literalBody, List.length_append, List.length_cons]
      omega

/-- The value of the literal that a text is written as is the text. -/
theorem stringValue?_stringLiteral (text : String) :
    stringValue? (stringLiteral text) = some text := by
  have hfuel : text.toList.length < (literalBody text.toList ++ ['"']).length + 1 := by
    have := length_le_literalBody text.toList
    rw [List.length_append]
    omega
  rw [stringValue?, stringLiteral, String.toList_ofList]
  change ((quotedRest false _ (literalBody text.toList ++ ['"'])).map _).map _ = _
  rw [quotedRest_literalBody text.toList hfuel, Option.map_some, Option.map_some]
  exact congrArg some String.ofList_toList

end MarkedRoutes.Source.Literal
