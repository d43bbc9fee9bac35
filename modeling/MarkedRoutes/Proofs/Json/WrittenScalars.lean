import MarkedRoutes.Json.Decoding
import MarkedRoutes.Json.Print
import MarkedRoutes.Proofs.Results
import MarkedRoutes.Proofs.Text.Utf8

/-!
# Reading strings and numbers back

A string that is written with its escapes is read back as the same string, whatever stands
behind its closing quote.  A whole number of 64 bits is read back from its digits, as long as
nothing stands behind them that could continue the number.
-/

namespace MarkedRoutes.Json

open MarkedRoutes.Text

variable {α : Type} {bytes value tail : List UInt8} {c : Char}

def placeBehind (place : Place) (bytes : List UInt8) : Place :=
  bytes.foldl Cursor.placeAfter place

theorem placeBehind_cons (place : Place) (byte : UInt8) (bytes : List UInt8) :
    placeBehind place (byte :: bytes) = placeBehind (Cursor.placeAfter place byte) bytes := rfl

theorem placeBehind_append (place : Place) (first second : List UInt8) :
    placeBehind place (first ++ second) = placeBehind (placeBehind place first) second :=
  List.foldl_append

/-- A reader takes a value from some bytes, and stands behind them then. -/
def Takes (read : Cursor → Except Failure (α × Cursor)) (bytes : List UInt8) (value : α)
    (tail : List UInt8) : Prop :=
  ∀ place, read ⟨bytes ++ tail, place⟩ = .ok (value, ⟨tail, placeBehind place bytes⟩)

theorem toNat_byteChar (byte : UInt8) : (byteChar byte).toNat = byte.toNat :=
  toNat_ofNat_of_isValidChar (Or.inl (by have := byte.toNat_lt; omega))

theorem byteChar_ofNat (hc : c.toNat < 128) : byteChar (UInt8.ofNat c.toNat) = c := by
  rw [byteChar, UInt8.toNat_ofNat_of_lt' (by omega : c.toNat < 256), Char.ofNat_toNat]

/-! ### Escapes -/

theorem takes_readEscape_short {mark : UInt8} (hmark : byteChar mark ≠ 'u')
    (hescape : shortEscape? (byteChar mark) = some c) : Takes readEscape [mark] c tail := by
  intro place
  rw [readEscape]
  simp only [Cursor.peek?, List.singleton_append, List.head?_cons, if_neg hmark, hescape]
  rfl

/-- A control character is escaped by two digits behind two zeros. -/
theorem utf8_codePointEscape (hc : c.toNat < 32) :
    ∃ high low, utf8 (codePointEscape c) = [92, 117, 48, 48, high, low] ∧
      hexValue? high = some (c.toNat / 16) ∧ hexValue? low = some (c.toNat % 16) := by
  have htable : ∀ point < 32, ∃ high low,
      utf8 (codePointEscape (Char.ofNat point)) = [92, 117, 48, 48, high, low] ∧
        hexValue? high = some (point / 16) ∧ hexValue? low = some (point % 16) := by
    intro point hpoint
    interval_cases point <;> exact ⟨_, _, rfl, rfl, rfl⟩
  simpa only [Char.ofNat_toNat] using htable c.toNat hc

theorem takes_readEscape_codePoint {high low : UInt8} (hc : c.toNat < 32)
    (hhigh : hexValue? high = some (c.toNat / 16)) (hlow : hexValue? low = some (c.toNat % 16)) :
    Takes readEscape [117, 48, 48, high, low] c tail := by
  intro place
  have hzero : hexValue? 48 = some 0 := rfl
  have hpoint : ((0 * 16 + 0) * 16 + c.toNat / 16) * 16 + c.toNat % 16 = c.toNat := by omega
  change readCodePoint ⟨48 :: 48 :: high :: low :: tail, Cursor.placeAfter place 117⟩ = _
  rw [readCodePoint, readHex]
  simp only [hzero, hhigh, hlow, hpoint]
  rw [ok_bind]
  simp only
  rw [if_neg (by simp; omega), if_pos (by simp; omega), Char.ofNat_toNat]
  rfl

/-! ### Strings -/

/-- The bytes of a string are taken from some bytes that end with its closing quote. -/
def TakesString (bytes value tail : List UInt8) : Prop :=
  ∀ fuel, bytes.length ≤ fuel → Takes (readStringBytes fuel) bytes value tail

theorem takesString_quote (tail : List UInt8) : TakesString [34] [] tail := by
  intro fuel hfuel place
  obtain ⟨fuel, rfl⟩ := Nat.exists_eq_add_of_le' hfuel
  rfl

/-- A byte that stands for itself. -/
theorem TakesString.byte (htaken : TakesString bytes value tail) {byte : UInt8}
    (hquote : byteChar byte ≠ '"') (hescape : byteChar byte ≠ '\\') (hcontrol : ¬ byte < 32) :
    TakesString (byte :: bytes) (byte :: value) tail := by
  intro fuel hfuel place
  cases fuel with
  | zero => cases hfuel
  | succ fuel =>
      have hothers := htaken fuel (Nat.le_of_succ_le_succ hfuel) (Cursor.placeAfter place byte)
      have hadvance : Cursor.advance ⟨byte :: (bytes ++ tail), place⟩ =
          ⟨bytes ++ tail, Cursor.placeAfter place byte⟩ := rfl
      rw [readStringBytes, List.cons_append]
      simp only [Cursor.peek?, List.head?_cons, if_neg hquote, if_neg hescape, if_neg hcontrol]
      rw [hadvance, hothers, ok_bind]
      rfl

theorem TakesString.plain (htaken : TakesString bytes value tail) {first : List UInt8}
    (hfirst : ∀ byte ∈ first,
      byteChar byte ≠ '"' ∧ byteChar byte ≠ '\\' ∧ ¬ byte < 32) :
    TakesString (first ++ bytes) (first ++ value) tail := by
  induction first with
  | nil => exact htaken
  | cons byte first ih =>
      rw [List.forall_mem_cons] at hfirst
      exact (ih hfirst.2).byte hfirst.1.1 hfirst.1.2.1 hfirst.1.2.2

/-- An escape that is read as a character. -/
theorem TakesString.escape (htaken : TakesString bytes value tail) {escape : List UInt8}
    (hescape : Takes readEscape escape c (bytes ++ tail)) :
    TakesString (92 :: (escape ++ bytes)) (String.utf8EncodeChar c ++ value) tail := by
  intro fuel hfuel place
  cases fuel with
  | zero => cases hfuel
  | succ fuel =>
      have hfuel : bytes.length ≤ fuel := by
        rw [List.length_cons, List.length_append] at hfuel
        omega
      have hchar := hescape (Cursor.placeAfter place 92)
      have hothers := htaken fuel hfuel (placeBehind (Cursor.placeAfter place 92) escape)
      have hread : readStringBytes (fuel + 1) ⟨92 :: (escape ++ bytes) ++ tail, place⟩ =
          (readEscape ⟨escape ++ bytes ++ tail, Cursor.placeAfter place 92⟩ >>= fun read =>
            readStringBytes fuel read.2 >>= fun others =>
              .ok (String.utf8EncodeChar read.1 ++ others.1, others.2)) := rfl
      rw [hread, List.append_assoc, hchar, ok_bind, hothers, ok_bind, placeBehind_cons,
        placeBehind_append]

/-- The bytes of a character that is written as itself stand for themselves. -/
theorem plain_of_mem_utf8EncodeChar (hquote : c ≠ '"') (hescape : c ≠ '\\')
    (hcontrol : 32 ≤ c.toNat) {byte : UInt8} (hmem : byte ∈ String.utf8EncodeChar c) :
    byteChar byte ≠ '"' ∧ byteChar byte ≠ '\\' ∧ ¬ byte < 32 := by
  rw [UInt8.lt_iff_toNat_lt]
  rcases Nat.lt_or_ge c.toNat 128 with hascii | hbeyond
  · rw [utf8EncodeChar_one hascii, List.mem_singleton] at hmem
    rw [hmem, byteChar_ofNat hascii, UInt8.toNat_ofNat_of_lt' (by omega : c.toNat < 256)]
    exact ⟨hquote, hescape, Nat.not_lt.mpr hcontrol⟩
  · have hbyte := le_of_mem_utf8EncodeChar hbeyond hmem
    have hother : ∀ other : Char, other.toNat < 128 → byteChar byte ≠ other := by
      rintro other hother rfl
      rw [toNat_byteChar] at hother
      omega
    exact ⟨hother _ (by decide), hother _ (by decide), Nat.not_lt.mpr (by simp; omega)⟩

/-- A character, escaped where it must be, is taken. -/
theorem TakesString.escapeChar (htaken : TakesString bytes value tail) (c : Char) :
    TakesString (utf8 (escapeChar c) ++ bytes) (String.utf8EncodeChar c ++ value) tail := by
  have hshort : ∀ {mark : UInt8} {written : List Char}, utf8 written = [92, mark] →
      byteChar mark ≠ 'u' → shortEscape? (byteChar mark) = some c →
      TakesString (utf8 written ++ bytes) (String.utf8EncodeChar c ++ value) tail := by
    intro mark written hwritten hmark hread
    rw [hwritten]
    exact htaken.escape (takes_readEscape_short hmark hread)
  rw [Json.escapeChar]
  split_ifs with hquote hescape hback htab hline hform hreturn hcontrol
  · exact hshort rfl (by decide) (by rw [eq_of_beq hquote]; rfl)
  · exact hshort rfl (by decide) (by rw [eq_of_beq hescape]; rfl)
  · exact hshort rfl (by decide) (by rw [eq_of_beq hback]; rfl)
  · exact hshort rfl (by decide) (by rw [eq_of_beq htab]; rfl)
  · exact hshort rfl (by decide) (by rw [eq_of_beq hline]; rfl)
  · exact hshort rfl (by decide) (by rw [eq_of_beq hform]; rfl)
  · exact hshort rfl (by decide) (by rw [eq_of_beq hreturn]; rfl)
  · have hbelow : c.toNat < 32 := hcontrol
    obtain ⟨high, low, hwritten, hhigh, hlow⟩ := utf8_codePointEscape hbelow
    rw [hwritten]
    exact htaken.escape (takes_readEscape_codePoint hbelow hhigh hlow)
  · have habove : 32 ≤ c.toNat := Nat.not_lt.mp hcontrol
    have hwritten : utf8 [c] = String.utf8EncodeChar c := List.append_nil _
    rw [hwritten]
    exact htaken.plain fun byte hmem =>
      plain_of_mem_utf8EncodeChar (by simpa using hquote) (by simpa using hescape) habove hmem

theorem takesString_escapeChars (text : List Char) (tail : List UInt8) :
    TakesString (utf8 (text.flatMap escapeChar) ++ [34]) (utf8 text) tail := by
  induction text with
  | nil => exact takesString_quote tail
  | cons c text ih =>
      rw [List.flatMap_cons, utf8_append, List.append_assoc, utf8_cons]
      exact ih.escapeChar c

/-- A string is taken from what is written behind its opening quote. -/
theorem takes_readStringRest (text : String) (tail : List UInt8) :
    Takes readStringRest (utf8 (text.toList.flatMap escapeChar) ++ [34]) text tail := by
  intro place
  have htaken := takesString_escapeChars text.toList tail
    ((utf8 (text.toList.flatMap escapeChar) ++ [34] ++ tail).length + 1)
    (by simp only [List.length_append]; omega) place
  have hdecoded : ofUtf8? (utf8 text.toList) = some text := ofUtf8?_eq_some_iff.mpr rfl
  rw [readStringRest, htaken, ok_bind]
  simp only
  rw [hdecoded]

/-! ### Whole numbers -/

def digitByte (c : Char) : UInt8 := UInt8.ofNat c.toNat

theorem isDigit_iff : c.isDigit = true ↔ 48 ≤ c.toNat ∧ c.toNat ≤ 57 := by
  rw [Char.isDigit, Bool.and_eq_true, decide_eq_true_eq, decide_eq_true_eq]
  rfl

theorem isDigitByte_iff {byte : UInt8} :
    isDigitByte byte = true ↔ 48 ≤ byte.toNat ∧ byte.toNat ≤ 57 := by
  simp [isDigitByte, UInt8.le_iff_toNat_le]

theorem toNat_digitByte (hc : c.isDigit = true) : (digitByte c).toNat = c.toNat :=
  UInt8.toNat_ofNat_of_lt' (by have := isDigit_iff.mp hc; omega : c.toNat < 256)

theorem isDigitByte_digitByte (hc : c.isDigit = true) : isDigitByte (digitByte c) = true := by
  rw [isDigitByte_iff, toNat_digitByte hc]
  exact isDigit_iff.mp hc

theorem byteChar_digitByte (hc : c.isDigit = true) : byteChar (digitByte c) = c :=
  byteChar_ofNat (by have := isDigit_iff.mp hc; omega)

theorem byteChar_ne_of_isDigitByte {byte : UInt8} (hdigit : isDigitByte byte = true)
    (hc : c.isDigit = false) : byteChar byte ≠ c := by
  rintro rfl
  have hisDigit : (byteChar byte).isDigit = true := by
    rw [isDigit_iff, toNat_byteChar]
    exact isDigitByte_iff.mp hdigit
  rw [hc] at hisDigit
  cases hisDigit

theorem utf8_eq_map_digitByte {digits : List Char} (hdigits : ∀ c ∈ digits, c.isDigit = true) :
    utf8 digits = digits.map digitByte := by
  induction digits with
  | nil => rfl
  | cons c digits ih =>
      rw [List.forall_mem_cons] at hdigits
      have hascii : c.toNat < 128 := by have := isDigit_iff.mp hdigits.1; omega
      rw [utf8_cons, utf8EncodeChar_one hascii, ih hdigits.2]
      rfl

theorem le_ofDigitChars (digits : List Char) (value : ℕ) :
    value ≤ Nat.ofDigitChars 10 digits value := by
  have hscaled := Nat.le_mul_of_pos_left value
    (Nat.pow_pos (by decide) : 0 < 10 ^ digits.length)
  rw [Nat.ofDigitChars_eq_ofDigitChars_zero]
  omega

/-- All digits of a number of 64 bits are appended. -/
theorem appendDigits_map {digits : List Char} (hdigits : ∀ c ∈ digits, c.isDigit = true)
    {number : ℕ} (count : ℕ) (hnumber : Nat.ofDigitChars 10 digits number ≤ maxNatural) :
    appendDigits number count (digits.map digitByte) =
      (Nat.ofDigitChars 10 digits number, count + digits.length) := by
  induction digits generalizing number count with
  | nil => rfl
  | cons c digits ih =>
      rw [List.forall_mem_cons] at hdigits
      have hstep : number * 10 + ((digitByte c).toNat - 48) =
          10 * number + (c.toNat - '0'.toNat) := by
        rw [toNat_digitByte hdigits.1, Nat.mul_comm]
        rfl
      rw [Nat.ofDigitChars_cons] at hnumber ⊢
      have hnext := (le_ofDigitChars digits _).trans hnumber
      rw [List.map_cons, appendDigits]
      simp only [hstep, if_pos hnext]
      rw [ih hdigits.2 _ hnumber, List.length_cons, Nat.add_assoc, Nat.add_comm 1]

/-- The first digit of a positive number is not zero. -/
theorem head?_toDigits_ne {number : ℕ} (hnumber : 0 < number) :
    (Nat.toDigits 10 number).head? ≠ some '0' := by
  induction number using Nat.strongRecOn with
  | ind number ih =>
      rcases Nat.lt_or_ge number 10 with hsmall | hlarge
      · rw [Nat.toDigits_of_lt_base hsmall]
        interval_cases number <;> decide
      · rw [Nat.toDigits_of_base_le (by decide) hlarge, List.head?_append]
        have hleading := ih (number / 10) (by omega) (by omega)
        obtain ⟨first, rest, hdigits⟩ := List.exists_cons_of_ne_nil
          (Nat.toDigits_ne_nil : Nat.toDigits 10 (number / 10) ≠ [])
        rw [hdigits] at hleading ⊢
        exact hleading

/-! ### Bytes of whole numbers -/

def digitBytes (number : ℕ) : List UInt8 := (Nat.toDigits 10 number).map digitByte

variable {number : ℕ}

theorem isDigit_of_mem (hmem : c ∈ Nat.toDigits 10 number) : c.isDigit = true :=
  Nat.isDigit_of_mem_toDigits (by decide) (by decide) hmem

theorem utf8_digitChars (number : ℕ) : utf8 (Decimal.digitChars number) = digitBytes number :=
  utf8_eq_map_digitByte fun _ => isDigit_of_mem

theorem isDigitByte_of_mem_digitBytes :
    ∀ byte ∈ digitBytes number, isDigitByte byte = true :=
  List.forall_mem_map.mpr fun _ hmem => isDigitByte_digitByte (isDigit_of_mem hmem)

theorem appendDigits_digitBytes (hnumber : number ≤ maxNatural) :
    appendDigits 0 0 (digitBytes number) = (number, (digitBytes number).length) := by
  have hvalue : Nat.ofDigitChars 10 (Nat.toDigits 10 number) 0 = number :=
    Nat.ofDigitChars_ten_toDigits
  rw [digitBytes, appendDigits_map (fun _ => isDigit_of_mem) 0 (hvalue.trans_le hnumber), hvalue,
    Nat.zero_add, List.length_map]

theorem digitBytes_eq_cons (hnumber : 0 < number) :
    ∃ first rest, digitBytes number = first :: rest ∧ isDigitByte first = true ∧
      byteChar first ≠ '0' := by
  obtain ⟨c, rest, hdigits⟩ := List.exists_cons_of_ne_nil
    (Nat.toDigits_ne_nil : Nat.toDigits 10 number ≠ [])
  have hmem : c ∈ Nat.toDigits 10 number := hdigits ▸ List.mem_cons_self
  have hc : c.isDigit = true := isDigit_of_mem hmem
  refine ⟨digitByte c, rest.map digitByte, by rw [digitBytes, hdigits, List.map_cons],
    isDigitByte_digitByte hc, ?_⟩
  rw [byteChar_digitByte hc]
  rintro rfl
  exact head?_toDigits_ne hnumber (by rw [hdigits]; rfl)

theorem exists_digitBytes_eq (number : ℕ) :
    ∃ first rest, digitBytes number = first :: rest ∧ isDigitByte first = true := by
  rcases Nat.eq_zero_or_pos number with rfl | hnumber
  · exact ⟨48, [], rfl, rfl⟩
  · obtain ⟨first, rest, hbytes, hdigit, -⟩ := digitBytes_eq_cons hnumber
    exact ⟨first, rest, hbytes, hdigit⟩

/-! ### Reading whole numbers -/

/-- What stands behind a number does not continue it. -/
def EndsNumber (tail : List UInt8) : Prop :=
  ∀ byte ∈ tail.head?, isDigitByte byte = false ∧ byte ≠ 46 ∧ byte ≠ 101 ∧ byte ≠ 69

theorem Cursor.advanceBy_append (place : Place) (bytes tail : List UInt8) :
    (Cursor.mk (bytes ++ tail) place).advanceBy bytes.length = ⟨tail, placeBehind place bytes⟩ := by
  induction bytes generalizing place with
  | nil => rfl
  | cons byte bytes ih => exact ih (Cursor.placeAfter place byte)

namespace EndsNumber

theorem takeWhile_eq_nil (htail : EndsNumber tail) : tail.takeWhile isDigitByte = [] := by
  cases tail with
  | nil => rfl
  | cons byte rest => exact List.takeWhile_cons_of_neg (by simp [(htail byte rfl).1])

theorem startsDigit_eq_false (htail : EndsNumber tail) (place : Place) :
    (Cursor.mk tail place).startsDigit = false := by
  cases tail with
  | nil => rfl
  | cons byte rest => exact (htail byte rfl).1

/-- Neither a fraction nor an exponent follows. -/
theorem startsWith_eq_false (htail : EndsNumber tail) {c : Char} (hc : c ∈ ['.', 'e', 'E'])
    (place : Place) : (Cursor.mk tail place).startsWith c = false := by
  rw [Cursor.startsWith, Cursor.peek?, beq_eq_false_iff_ne]
  intro hhead
  obtain ⟨-, hpoint, hsmall, hlarge⟩ := htail _ (Option.mem_def.mpr hhead)
  simp only [List.mem_cons, List.not_mem_nil, or_false] at hc
  rcases hc with rfl | rfl | rfl
  · exact hpoint rfl
  · exact hsmall rfl
  · exact hlarge rfl

theorem startsExponent_eq_false (htail : EndsNumber tail) (place : Place) :
    startsExponent ⟨tail, place⟩ = false := by
  rw [startsExponent, htail.startsWith_eq_false (by decide), htail.startsWith_eq_false (by decide)]
  rfl

theorem finishNumber_eq (htail : EndsNumber tail) (positive : Bool) (number : ℕ)
    (place : Place) :
    finishNumber positive number 0 ⟨tail, place⟩ =
      .ok (wholeNumber positive number, ⟨tail, place⟩) := by
  rw [finishNumber, htail.startsWith_eq_false (by decide), htail.startsExponent_eq_false]
  rfl

theorem digitsAt_eq (htail : EndsNumber tail) (number : ℕ) (place : Place) :
    digitsAt ⟨digitBytes number ++ tail, place⟩ = digitBytes number := by
  rw [digitsAt, List.takeWhile_append_of_pos isDigitByte_of_mem_digitBytes,
    htail.takeWhile_eq_nil, List.append_nil]

theorem skipDigits_eq (htail : EndsNumber tail) (number : ℕ) (place : Place) :
    skipDigits ⟨digitBytes number ++ tail, place⟩ =
      ⟨tail, placeBehind place (digitBytes number)⟩ := by
  rw [skipDigits, htail.digitsAt_eq, Cursor.advanceBy_append]

/-- A whole number of 64 bits is taken from its digits. -/
theorem takes_readNumber (htail : EndsNumber tail) (positive : Bool)
    (hnumber : number ≤ maxNatural) :
    Takes (readNumber positive) (utf8 (Decimal.digitChars number)) (wholeNumber positive number)
      tail := by
  intro place
  rcases Nat.eq_zero_or_pos number with rfl | hpositive
  · have hdigit : utf8 (Decimal.digitChars 0) ++ tail = 48 :: tail := rfl
    have hzero : readNumber positive ⟨48 :: tail, place⟩ =
        if (Cursor.mk tail (Cursor.placeAfter place 48)).startsDigit then
          (Cursor.mk tail (Cursor.placeAfter place 48)).failNext .invalidNumber
        else finishNumber positive 0 0 ⟨tail, Cursor.placeAfter place 48⟩ := rfl
    rw [hdigit, hzero, htail.startsDigit_eq_false, htail.finishNumber_eq]
    rfl
  · obtain ⟨first, rest, hbytes, hdigit, hne⟩ := digitBytes_eq_cons hpositive
    have hpeek : (Cursor.mk (digitBytes number ++ tail) place).peek? = some first := by
      rw [hbytes]
      rfl
    rw [utf8_digitChars, readNumber, hpeek]
    simp only [if_neg hne, if_pos hdigit, htail.digitsAt_eq, appendDigits_digitBytes hnumber,
      htail.skipDigits_eq, Nat.sub_self]
    exact htail.finishNumber_eq positive number _

end EndsNumber

end MarkedRoutes.Json
