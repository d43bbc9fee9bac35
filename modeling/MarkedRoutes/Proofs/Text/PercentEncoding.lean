import MarkedRoutes.Proofs.Text.Utf8
import MarkedRoutes.Text.Percent

/-!
# Percent-encoding a text

A text is percent-encoded byte by byte: letters, digits and some signs stand for
themselves, and every other byte is written as a percent sign with two
hexadecimal digits.  Decoding gives the bytes of the text back, and a sign that
does not stand for itself occurs nowhere in what is written.
-/

namespace MarkedRoutes.Text

def hexDigit (value : ℕ) : Char :=
  if value < 10 then Char.ofNat (48 + value) else Char.ofNat (55 + value)

/-- Whether a character stands for itself: a letter, a digit or one of some signs. -/
def isPlain (signs : List Char) (c : Char) : Bool := c.isAlphanum || signs.contains c

def encodeByte (signs : List Char) (byte : UInt8) : List Char :=
  if isPlain signs (Char.ofNat byte.toNat) then [Char.ofNat byte.toNat]
  else ['%', hexDigit (byte.toNat / 16), hexDigit (byte.toNat % 16)]

def percentEncode (signs : List Char) (text : String) : List Char :=
  (bytesOf text).flatMap (encodeByte signs)

/-- The signs that are not reserved in an address. -/
def unreservedSigns : List Char := ['-', '.', '_', '~']

/-- Signs of ASCII other than the percent sign. -/
def ArePlain (signs : List Char) : Prop := ∀ sign ∈ signs, sign.toNat < 128 ∧ sign ≠ '%'

instance (signs : List Char) : Decidable (ArePlain signs) :=
  List.decidableBAll (fun sign : Char => sign.toNat < 128 ∧ sign ≠ '%') signs

/-! ### Plain characters -/

theorem toNat_lt_of_isAlphanum {c : Char} (hc : c.isAlphanum = true) : c.toNat < 128 := by
  rcases Bool.or_eq_true_iff.mp hc with halpha | hdigit
  · rcases Bool.or_eq_true_iff.mp halpha with hupper | hlower
    · have hle : c.toNat ≤ 'Z'.toNat := (of_decide_eq_true hupper).2
      exact Nat.lt_of_le_of_lt hle (by decide)
    · have hle : c.toNat ≤ 'z'.toNat := of_decide_eq_true (Bool.and_eq_true_iff.mp hlower).2
      exact Nat.lt_of_le_of_lt hle (by decide)
  · have hle : c.toNat ≤ '9'.toNat := of_decide_eq_true (Bool.and_eq_true_iff.mp hdigit).2
    exact Nat.lt_of_le_of_lt hle (by decide)

theorem ArePlain.of_isPlain {signs : List Char} (hsigns : ArePlain signs) {c : Char}
    (hplain : isPlain signs c = true) : c.toNat < 128 ∧ c ≠ '%' := by
  rcases Bool.or_eq_true_iff.mp hplain with hc | hc
  · refine ⟨toNat_lt_of_isAlphanum hc, ?_⟩
    rintro rfl
    exact absurd hc (by decide)
  · exact hsigns c (List.contains_iff_mem.mp hc)

theorem toNat_ofNat_toNat (byte : UInt8) : (Char.ofNat byte.toNat).toNat = byte.toNat := by
  apply toNat_ofNat_of_isValidChar
  have hbyte := byte.toNat_lt
  exact Or.inl (by omega)

theorem hexDigit_spec {value : ℕ} (hvalue : value < 16) :
    (hexDigit value).toNat < 128 ∧ (hexDigit value).isAlphanum = true ∧
      hexDigitValue? (UInt8.ofNat (hexDigit value).toNat) = some value := by
  have hall : ∀ value < 16, (hexDigit value).toNat < 128 ∧ (hexDigit value).isAlphanum = true ∧
      hexDigitValue? (UInt8.ofNat (hexDigit value).toNat) = some value := by decide
  exact hall value hvalue

/-! ### Decoding -/

theorem percentDecode_cons_of_ne {byte : UInt8} (hbyte : byte ≠ percentByte)
    (rest : List UInt8) : percentDecode (byte :: rest) = byte :: percentDecode rest := by
  match rest with
  | [] => rfl
  | [second] => rfl
  | second :: third :: rest => rw [percentDecode, percentEscape?, if_neg hbyte]

theorem percentDecode_of_notMem {bytes : List UInt8} (hpercent : percentByte ∉ bytes) :
    percentDecode bytes = bytes := by
  induction bytes with
  | nil => rfl
  | cons byte bytes ih =>
      rw [List.mem_cons, not_or] at hpercent
      rw [percentDecode_cons_of_ne (Ne.symm hpercent.1), ih hpercent.2]

/-- A text without a percent sign stands for itself. -/
theorem percentDecode_utf8 {text : List Char} (hpercent : '%' ∉ text) :
    percentDecode (utf8 text) = utf8 text :=
  percentDecode_of_notMem fun hmem => hpercent (mem_of_mem_utf8 (by decide) hmem)

/-- A byte that was written is read back, whatever follows. -/
theorem percentDecode_encodeByte {signs : List Char} (hsigns : ArePlain signs) (byte : UInt8)
    (rest : List UInt8) :
    percentDecode (utf8 (encodeByte signs byte) ++ rest) = byte :: percentDecode rest := by
  rw [encodeByte]
  split
  · next hplain =>
    obtain ⟨hascii, hpercent⟩ := hsigns.of_isPlain hplain
    have hne : byte ≠ percentByte := by
      rintro rfl
      exact hpercent rfl
    rw [utf8_cons, utf8EncodeChar_one hascii, toNat_ofNat_toNat, UInt8.ofNat_toNat]
    exact percentDecode_cons_of_ne hne rest
  · have hbyte := byte.toNat_lt
    obtain ⟨hhigh, -, hhighValue⟩ := hexDigit_spec (show byte.toNat / 16 < 16 by omega)
    obtain ⟨hlow, -, hlowValue⟩ := hexDigit_spec (show byte.toNat % 16 < 16 by omega)
    have hdigits : 16 * (byte.toNat / 16) + byte.toNat % 16 = byte.toNat :=
      Nat.div_add_mod byte.toNat 16
    rw [utf8_cons, utf8_cons, utf8_cons, utf8EncodeChar_one hhigh, utf8EncodeChar_one hlow]
    change percentDecode (percentByte :: _ :: _ :: rest) = _
    rw [percentDecode, percentEscape?, if_pos rfl, hexByte?, hhighValue, hlowValue]
    dsimp only
    rw [hdigits, UInt8.ofNat_toNat]

/-- Bytes that are written by any rule that is read back byte by byte are read back. -/
theorem percentDecode_flatMap {write : UInt8 → List Char}
    (hwrite : ∀ byte rest, percentDecode (utf8 (write byte) ++ rest) = byte :: percentDecode rest)
    (bytes : List UInt8) : percentDecode (utf8 (bytes.flatMap write)) = bytes := by
  induction bytes with
  | nil => rfl
  | cons byte bytes ih => rw [List.flatMap_cons, utf8_append, hwrite, ih]

theorem percentDecode_percentEncode {signs : List Char} (hsigns : ArePlain signs)
    (text : String) : percentDecode (utf8 (percentEncode signs text)) = bytesOf text :=
  percentDecode_flatMap (percentDecode_encodeByte hsigns) (bytesOf text)

/-- The bytes of a text are shown as the text. -/
theorem ofUtf8Lossy_bytesOf (text : String) : ofUtf8Lossy (bytesOf text) = text := by
  have hall : ∀ (parts : List (Option Char)) (chars : List Char), parts.mapM id = some chars →
      parts.map (fun part => part.getD '\ufffd') = chars := by
    intro parts
    induction parts with
    | nil =>
        intro chars hchars
        exact Option.some.inj hchars
    | cons part parts ih =>
        intro chars hchars
        simp only [List.mapM_cons, id_eq, Option.bind_eq_bind, Option.bind_eq_some_iff,
          Option.pure_def, Option.some_inj] at hchars
        obtain ⟨c, rfl, others, hothers, rfl⟩ := hchars
        rw [List.map_cons, ih others hothers, Option.getD_some]
  have hparts := (mapM_utf8Parts_eq_some_iff (Nat.le_refl (bytesOf text).length)).mpr
    (show utf8 text.toList = bytesOf text from rfl)
  rw [ofUtf8Lossy, hall _ _ hparts, String.ofList_toList]

/-! ### What does not occur -/

theorem notMem_encodeByte {signs : List Char} {c : Char} (hplain : isPlain signs c = false)
    (hpercent : c ≠ '%') (byte : UInt8) : c ∉ encodeByte signs byte := by
  have halphanum : c.isAlphanum = false := (Bool.or_eq_false_iff.mp hplain).1
  intro hmem
  rw [encodeByte] at hmem
  split at hmem
  · next hbyte =>
    obtain rfl := List.mem_singleton.mp hmem
    rw [hplain] at hbyte
    cases hbyte
  · have hbyte := byte.toNat_lt
    obtain ⟨-, hhigh, -⟩ := hexDigit_spec (show byte.toNat / 16 < 16 by omega)
    obtain ⟨-, hlow, -⟩ := hexDigit_spec (show byte.toNat % 16 < 16 by omega)
    simp only [List.mem_cons, List.not_mem_nil, or_false] at hmem
    rcases hmem with rfl | rfl | rfl
    · exact hpercent rfl
    · rw [halphanum] at hhigh
      cases hhigh
    · rw [halphanum] at hlow
      cases hlow

/-- A sign that does not stand for itself occurs nowhere in what is written. -/
theorem notMem_percentEncode {signs : List Char} {c : Char} (hplain : isPlain signs c = false)
    (hpercent : c ≠ '%') (text : String) : c ∉ percentEncode signs text := by
  intro hmem
  obtain ⟨byte, -, hbyte⟩ := List.mem_flatMap.mp hmem
  exact notMem_encodeByte hplain hpercent byte hbyte

theorem percentEncode_eq_nil_iff {signs : List Char} {text : String} :
    percentEncode signs text = [] ↔ text = "" := by
  constructor
  · intro hnil
    have hempty : bytesOf text = [] := by
      cases hbytes : bytesOf text with
      | nil => rfl
      | cons byte rest =>
          rw [percentEncode, hbytes, List.flatMap_cons, encodeByte] at hnil
          split at hnil <;> cases hnil
    exact String.toList_inj.mp (utf8_eq_nil_iff.mp hempty)
  · rintro rfl
    rfl

end MarkedRoutes.Text
