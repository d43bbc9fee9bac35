import MarkedRoutes.Text.Utf8
import Mathlib.Tactic.Common
import Mathlib.Tactic.IntervalCases

/-!
# Decoding UTF-8

Decoding inverts the encoding of texts: bytes that encode a text decode to it,
and bytes that decode to a text are its encoding.  Both directions are proved
for the character that bytes begin with, by the number of its bytes.
-/

namespace MarkedRoutes.Text

/-! ### Bytes of one character -/

theorem continuation?_eq_some_iff {byte : UInt8} {payload : ℕ} :
    continuation? byte = some payload ↔ byte.toNat = payload + 128 ∧ payload < 64 := by
  simp only [continuation?, Bool.and_eq_true, decide_eq_true_eq, UInt8.le_iff_toNat_le,
    Option.ite_none_right_eq_some, Option.some_inj]
  have h1 : (0x80 : UInt8).toNat = 128 := rfl
  have h2 : (0xBF : UInt8).toNat = 191 := rfl
  omega

theorem toNat_ofNat_of_isValidChar {point : ℕ} (hpoint : point.isValidChar) :
    (Char.ofNat point).toNat = point := by
  rw [Char.ofNat, dif_pos hpoint]
  rfl

theorem eq_of_toNat_eq {byte : UInt8} {n : ℕ} (hbyte : byte.toNat = n) :
    byte = UInt8.ofNat n := by
  rw [← hbyte, UInt8.ofNat_toNat]

theorem leadByte?_two {byte : UInt8} {payload : ℕ} (hbyte : byte.toNat = payload + 192)
    (hlow : 2 ≤ payload) (hhigh : payload < 32) :
    leadByte? byte = some (1, payload, 0x80, 0xBF) := by
  rw [eq_of_toNat_eq hbyte]
  interval_cases payload <;> rfl

theorem leadByte?_three {byte : UInt8} {payload : ℕ} (hbyte : byte.toNat = payload + 224)
    (hhigh : payload < 16) :
    leadByte? byte = some (2, payload, if payload = 0 then 0xA0 else 0x80,
      if payload = 13 then 0x9F else 0xBF) := by
  rw [eq_of_toNat_eq hbyte]
  interval_cases payload <;> rfl

theorem leadByte?_four {byte : UInt8} {payload : ℕ} (hbyte : byte.toNat = payload + 240)
    (hhigh : payload < 5) :
    leadByte? byte = some (3, payload, if payload = 0 then 0x90 else 0x80,
      if payload = 4 then 0x8F else 0xBF) := by
  rw [eq_of_toNat_eq hbyte]
  interval_cases payload <;> rfl

theorem leadByte?_none {byte : UInt8} (hbyte : byte.toNat < 194 ∨ 245 ≤ byte.toNat) :
    leadByte? byte = none := by
  have hne : ∀ other : UInt8, byte.toNat ≠ other.toNat → (byte == other) = false :=
    fun other hother => beq_eq_false_iff_ne.mpr fun heq => hother (congrArg UInt8.toNat heq)
  have hlt := byte.toNat_lt
  simp only [leadByte?, UInt8.le_iff_toNat_le, UInt8.reduceToNat, Bool.and_eq_true,
    decide_eq_true_eq]
  rw [if_neg (by omega), hne 0xE0 (by simp; omega), hne 0xED (by simp; omega), if_neg (by simp),
    if_neg (by simp), if_neg (by omega), hne 0xF0 (by simp; omega), hne 0xF4 (by simp; omega),
    if_neg (by simp), if_neg (by simp), if_neg (by omega)]

/-! ### Reading one character -/

theorem readContinuations_cons {byte : UInt8} {payload : ℕ} (hbyte : byte.toNat = payload + 128)
    (hpayload : payload < 64) (length point count : ℕ) (rest : List UInt8) :
    readContinuations length point (count + 1) (byte :: rest) =
      readContinuations (length + 1) (point * 64 + payload) count rest := by
  rw [readContinuations, continuation?_eq_some_iff.mpr ⟨hbyte, hpayload⟩]

theorem readContinuations_eq_char {length point count : ℕ} {bytes after : List UInt8} {c : Char}
    (hread : readContinuations length point (count + 1) bytes = .char c after) :
    ∃ byte rest payload, bytes = byte :: rest ∧ byte.toNat = payload + 128 ∧ payload < 64 ∧
      readContinuations (length + 1) (point * 64 + payload) count rest = .char c after := by
  cases bytes with
  | nil => cases hread
  | cons byte rest =>
      rw [readContinuations] at hread
      cases hpayload : continuation? byte with
      | none =>
          rw [hpayload] at hread
          cases hread
      | some payload =>
          rw [hpayload] at hread
          obtain ⟨hbyte, hlt⟩ := continuation?_eq_some_iff.mp hpayload
          exact ⟨byte, rest, payload, rfl, hbyte, hlt, hread⟩

theorem utf8Head_ascii {byte : UInt8} (hbyte : byte.toNat < 128) (rest : List UInt8) :
    utf8Head byte rest = .char (Char.ofNat byte.toNat) rest := by
  unfold utf8Head
  exact if_pos (UInt8.lt_iff_toNat_lt.mpr hbyte)

theorem utf8Head_lead {byte : UInt8} {count payload : ℕ} {low high : UInt8}
    (hlead : leadByte? byte = some (count, payload, low, high)) (hbyte : 128 ≤ byte.toNat)
    {second : UInt8} (hlow : low.toNat ≤ second.toNat) (hhigh : second.toNat ≤ high.toNat)
    (rest : List UInt8) :
    utf8Head byte (second :: rest) = readContinuations 1 payload count (second :: rest) := by
  have hascii : ¬ byte < 0x80 := fun hlt =>
    absurd (UInt8.lt_iff_toNat_lt.mp hlt) (Nat.not_lt.mpr hbyte)
  unfold utf8Head
  simp only [if_neg hascii, hlead, UInt8.le_iff_toNat_le.mpr hlow,
    UInt8.le_iff_toNat_le.mpr hhigh, decide_true, Bool.and_self, if_true]

theorem utf8Head_two {lead second : UInt8} {p q : ℕ} (hlead : lead.toNat = p + 192)
    (hlow : 2 ≤ p) (hhigh : p < 32) (hsecond : second.toNat = q + 128) (hq : q < 64)
    (rest : List UInt8) :
    utf8Head lead (second :: rest) = .char (Char.ofNat (p * 64 + q)) rest := by
  rw [utf8Head_lead (leadByte?_two hlead hlow hhigh) (by omega) (by simp; omega)
    (by simp; omega), readContinuations_cons hsecond hq, readContinuations]

theorem utf8Head_three {lead second third : UInt8} {p q r : ℕ} (hlead : lead.toNat = p + 224)
    (hp : p < 16) (hlow : p = 0 → 32 ≤ q) (hhigh : p = 13 → q < 32)
    (hsecond : second.toNat = q + 128) (hq : q < 64) (hthird : third.toNat = r + 128)
    (hr : r < 64) (rest : List UInt8) :
    utf8Head lead (second :: third :: rest) =
      .char (Char.ofNat ((p * 64 + q) * 64 + r)) rest := by
  rw [utf8Head_lead (leadByte?_three hlead hp) (by omega) (by split <;> simp <;> omega)
    (by split <;> simp <;> omega), readContinuations_cons hsecond hq,
    readContinuations_cons hthird hr, readContinuations]

theorem utf8Head_four {lead second third fourth : UInt8} {p q r t : ℕ}
    (hlead : lead.toNat = p + 240) (hp : p < 5) (hlow : p = 0 → 16 ≤ q)
    (hhigh : p = 4 → q < 16) (hsecond : second.toNat = q + 128) (hq : q < 64)
    (hthird : third.toNat = r + 128) (hr : r < 64) (hfourth : fourth.toNat = t + 128)
    (ht : t < 64) (rest : List UInt8) :
    utf8Head lead (second :: third :: fourth :: rest) =
      .char (Char.ofNat (((p * 64 + q) * 64 + r) * 64 + t)) rest := by
  rw [utf8Head_lead (leadByte?_four hlead hp) (by omega) (by split <;> simp <;> omega)
    (by split <;> simp <;> omega), readContinuations_cons hsecond hq,
    readContinuations_cons hthird hr, readContinuations_cons hfourth ht, readContinuations]

/-- When a character is read after a lead byte, the lead byte and the next one are in
range. -/
theorem utf8Head_eq_char {byte : UInt8} {rest after : List UInt8} {c : Char}
    (hbyte : 128 ≤ byte.toNat) (hread : utf8Head byte rest = .char c after) :
    ∃ count payload low high second tail, leadByte? byte = some (count, payload, low, high) ∧
      rest = second :: tail ∧ low.toNat ≤ second.toNat ∧ second.toNat ≤ high.toNat ∧
      readContinuations 1 payload count rest = .char c after := by
  have hascii : ¬ byte < 0x80 := fun hlt =>
    absurd (UInt8.lt_iff_toNat_lt.mp hlt) (Nat.not_lt.mpr hbyte)
  unfold utf8Head at hread
  rw [if_neg hascii] at hread
  split at hread
  · next count payload low high second tail hlead =>
      split at hread
      · next hrange =>
          rw [Bool.and_eq_true, decide_eq_true_eq, decide_eq_true_eq] at hrange
          exact ⟨count, payload, low, high, second, tail, hlead, rfl,
            UInt8.le_iff_toNat_le.mp hrange.1, UInt8.le_iff_toNat_le.mp hrange.2, hread⟩
      · cases hread
  · cases hread

/-! ### Encoded characters -/

theorem toNat_isValidChar (c : Char) : c.toNat.isValidChar := c.valid

theorem utf8EncodeChar_one {c : Char} (hc : c.toNat < 128) :
    String.utf8EncodeChar c = [UInt8.ofNat c.toNat] := by
  unfold String.utf8EncodeChar
  exact if_pos (Nat.le_of_lt_succ hc)

theorem utf8EncodeChar_two {c : Char} (hlow : 128 ≤ c.toNat) (hhigh : c.toNat < 2048) :
    String.utf8EncodeChar c =
      [UInt8.ofNat (c.toNat / 64 + 192), UInt8.ofNat (c.toNat % 64 + 128)] := by
  have hv : c.val.toNat = c.toNat := rfl
  unfold String.utf8EncodeChar
  simp only [hv]
  rw [if_neg (by omega), if_pos (by omega), Nat.mod_eq_of_lt (b := 32) (by omega)]

theorem utf8EncodeChar_three {c : Char} (hlow : 2048 ≤ c.toNat) (hhigh : c.toNat < 65536) :
    String.utf8EncodeChar c =
      [UInt8.ofNat (c.toNat / 4096 + 224), UInt8.ofNat (c.toNat / 64 % 64 + 128),
        UInt8.ofNat (c.toNat % 64 + 128)] := by
  have hv : c.val.toNat = c.toNat := rfl
  unfold String.utf8EncodeChar
  simp only [hv]
  rw [if_neg (by omega), if_neg (by omega), if_pos (by omega),
    Nat.mod_eq_of_lt (b := 16) (by omega)]

theorem utf8EncodeChar_four {c : Char} (hlow : 65536 ≤ c.toNat) :
    String.utf8EncodeChar c =
      [UInt8.ofNat (c.toNat / 262144 + 240), UInt8.ofNat (c.toNat / 4096 % 64 + 128),
        UInt8.ofNat (c.toNat / 64 % 64 + 128), UInt8.ofNat (c.toNat % 64 + 128)] := by
  have hv : c.val.toNat = c.toNat := rfl
  have hvalid := toNat_isValidChar c
  rw [Nat.isValidChar] at hvalid
  unfold String.utf8EncodeChar
  simp only [hv]
  rw [if_neg (by omega), if_neg (by omega), if_neg (by omega),
    Nat.mod_eq_of_lt (b := 8) (by omega)]

/-- A character beyond ASCII is encoded by bytes beyond ASCII. -/
theorem le_of_mem_utf8EncodeChar {c : Char} (hc : 128 ≤ c.toNat) {byte : UInt8}
    (hmem : byte ∈ String.utf8EncodeChar c) : 128 ≤ byte.toNat := by
  have hvalid := toNat_isValidChar c
  rw [Nat.isValidChar] at hvalid
  have hbyte : ∀ n, 128 ≤ n → n < 256 → byte = UInt8.ofNat n → 128 ≤ byte.toNat := by
    rintro n hlow hhigh rfl
    rwa [UInt8.toNat_ofNat_of_lt' hhigh]
  rcases Nat.lt_or_ge c.toNat 2048 with htwo | htwo
  · simp only [utf8EncodeChar_two hc htwo, List.mem_cons, List.not_mem_nil, or_false] at hmem
    rcases hmem with hmem | hmem <;> exact hbyte _ (by omega) (by omega) hmem
  rcases Nat.lt_or_ge c.toNat 65536 with hthree | hthree
  · simp only [utf8EncodeChar_three htwo hthree, List.mem_cons, List.not_mem_nil,
      or_false] at hmem
    rcases hmem with hmem | hmem | hmem <;> exact hbyte _ (by omega) (by omega) hmem
  · simp only [utf8EncodeChar_four hthree, List.mem_cons, List.not_mem_nil, or_false] at hmem
    rcases hmem with hmem | hmem | hmem | hmem <;> exact hbyte _ (by omega) (by omega) hmem

/-- An encoded character is read back. -/
theorem utf8Head_of_utf8EncodeChar {c : Char} {byte : UInt8} {rest after : List UInt8}
    (hbytes : byte :: rest = String.utf8EncodeChar c ++ after) :
    utf8Head byte rest = .char c after := by
  have hvalid := toNat_isValidChar c
  rw [Nat.isValidChar] at hvalid
  have hnat : ∀ n, n < 256 → (UInt8.ofNat n).toNat = n := fun n hn =>
    UInt8.toNat_ofNat_of_lt' hn
  have hchar : ∀ n, n = c.toNat → Utf8Head.char (Char.ofNat n) after = .char c after := by
    rintro n rfl
    rw [Char.ofNat_toNat]
  rcases Nat.lt_or_ge c.toNat 128 with hone | hone
  · rw [utf8EncodeChar_one hone, List.cons_append, List.nil_append] at hbytes
    obtain ⟨rfl, rfl⟩ := List.cons.inj hbytes
    have hlead := hnat c.toNat (by omega)
    rw [utf8Head_ascii (by omega)]
    exact hchar _ hlead
  rcases Nat.lt_or_ge c.toNat 2048 with htwo | htwo
  · rw [utf8EncodeChar_two hone htwo] at hbytes
    obtain ⟨rfl, rfl⟩ := List.cons.inj hbytes
    refine (utf8Head_two (hnat _ (by omega)) (by omega) (by omega) (hnat _ (by omega))
      (by omega) after).trans ?_
    exact hchar _ (by omega)
  rcases Nat.lt_or_ge c.toNat 65536 with hthree | hthree
  · rw [utf8EncodeChar_three htwo hthree] at hbytes
    obtain ⟨rfl, rfl⟩ := List.cons.inj hbytes
    refine (utf8Head_three (hnat _ (by omega)) (by omega) (by omega) (by omega)
      (hnat _ (by omega)) (by omega) (hnat _ (by omega)) (by omega) after).trans ?_
    exact hchar _ (by omega)
  · rw [utf8EncodeChar_four hthree] at hbytes
    obtain ⟨rfl, rfl⟩ := List.cons.inj hbytes
    refine (utf8Head_four (hnat _ (by omega)) (by omega) (by omega) (by omega)
      (hnat _ (by omega)) (by omega) (hnat _ (by omega)) (by omega) (hnat _ (by omega))
      (by omega) after).trans ?_
    exact hchar _ (by omega)

/-- What is read as a character is its encoding. -/
theorem utf8EncodeChar_of_utf8Head {byte : UInt8} {rest after : List UInt8} {c : Char}
    (hread : utf8Head byte rest = .char c after) :
    byte :: rest = String.utf8EncodeChar c ++ after := by
  have hpoint : ∀ n : ℕ, n.isValidChar → Char.ofNat n = c → c.toNat = n := by
    rintro n hn rfl
    exact toNat_ofNat_of_isValidChar hn
  rcases Nat.lt_or_ge byte.toNat 128 with hascii | hascii
  · rw [utf8Head_ascii hascii] at hread
    injection hread with hc hafter
    have hnat := hpoint byte.toNat (Or.inl (by omega)) hc
    rw [utf8EncodeChar_one (by omega), hnat, UInt8.ofNat_toNat, hafter]
    rfl
  obtain ⟨count, payload, low, high, second, tail, hlead, rfl, hlow, hhigh, hread⟩ :=
    utf8Head_eq_char hascii hread
  rcases Nat.lt_or_ge byte.toNat 194 with hnone | hbelow
  · rw [leadByte?_none (Or.inl hnone)] at hlead
    cases hlead
  rcases Nat.lt_or_ge byte.toNat 224 with htwo | htwo
  · obtain ⟨p, hp⟩ := Nat.exists_eq_add_of_le (show 192 ≤ byte.toNat by omega)
    rw [leadByte?_two (hp.trans (Nat.add_comm 192 p)) (by omega) (by omega), Option.some_inj,
      Prod.mk.injEq, Prod.mk.injEq] at hlead
    obtain ⟨rfl, rfl, -⟩ := hlead
    obtain ⟨_, _, q, heq, hsecond, hq, hread⟩ := readContinuations_eq_char hread
    obtain ⟨rfl, rfl⟩ := List.cons.inj heq
    rw [readContinuations] at hread
    injection hread with hc hafter
    have hnat := hpoint (p * 64 + q) (Or.inl (by omega)) hc
    rw [utf8EncodeChar_two (by omega) (by omega), ← hafter,
      ← @eq_of_toNat_eq byte _ (by omega), ← @eq_of_toNat_eq second _ (by omega)]
    rfl
  rcases Nat.lt_or_ge byte.toNat 240 with hthree | hthree
  · obtain ⟨p, hp⟩ := Nat.exists_eq_add_of_le htwo
    rw [leadByte?_three (hp.trans (Nat.add_comm 224 p)) (by omega), Option.some_inj,
      Prod.mk.injEq, Prod.mk.injEq, Prod.mk.injEq] at hlead
    obtain ⟨rfl, rfl, rfl, rfl⟩ := hlead
    obtain ⟨_, _, q, heq, hsecond, hq, hread⟩ := readContinuations_eq_char hread
    obtain ⟨rfl, rfl⟩ := List.cons.inj heq
    obtain ⟨third, _, r, rfl, hthird, hr, hread⟩ := readContinuations_eq_char hread
    rw [readContinuations] at hread
    injection hread with hc hafter
    have hfirst : p = 0 → 32 ≤ q := by
      rintro rfl
      rw [if_pos rfl, hsecond] at hlow
      have hbound : 160 ≤ q + 128 := hlow
      omega
    have hsurrogate : p = 13 → q < 32 := by
      rintro rfl
      rw [if_pos rfl, hsecond] at hhigh
      have hbound : q + 128 ≤ 159 := hhigh
      omega
    have hnat := hpoint ((p * 64 + q) * 64 + r) (by rw [Nat.isValidChar]; omega) hc
    rw [utf8EncodeChar_three (by omega) (by omega), ← hafter,
      ← @eq_of_toNat_eq byte _ (by omega), ← @eq_of_toNat_eq second _ (by omega),
      ← @eq_of_toNat_eq third _ (by omega)]
    rfl
  rcases Nat.lt_or_ge byte.toNat 245 with hfour | hfour
  · obtain ⟨p, hp⟩ := Nat.exists_eq_add_of_le hthree
    rw [leadByte?_four (hp.trans (Nat.add_comm 240 p)) (by omega), Option.some_inj,
      Prod.mk.injEq, Prod.mk.injEq, Prod.mk.injEq] at hlead
    obtain ⟨rfl, rfl, rfl, rfl⟩ := hlead
    obtain ⟨_, _, q, heq, hsecond, hq, hread⟩ := readContinuations_eq_char hread
    obtain ⟨rfl, rfl⟩ := List.cons.inj heq
    obtain ⟨third, _, r, rfl, hthird, hr, hread⟩ := readContinuations_eq_char hread
    obtain ⟨fourth, _, t, rfl, hfourth, ht, hread⟩ := readContinuations_eq_char hread
    rw [readContinuations] at hread
    injection hread with hc hafter
    have hfirst : p = 0 → 16 ≤ q := by
      rintro rfl
      rw [if_pos rfl, hsecond] at hlow
      have hbound : 144 ≤ q + 128 := hlow
      omega
    have hlast : p = 4 → q < 16 := by
      rintro rfl
      rw [if_pos rfl, hsecond] at hhigh
      have hbound : q + 128 ≤ 143 := hhigh
      omega
    have hnat :=
      hpoint (((p * 64 + q) * 64 + r) * 64 + t) (by rw [Nat.isValidChar]; omega) hc
    rw [utf8EncodeChar_four (by omega), ← hafter,
      ← @eq_of_toNat_eq byte _ (by omega), ← @eq_of_toNat_eq second _ (by omega),
      ← @eq_of_toNat_eq third _ (by omega), ← @eq_of_toNat_eq fourth _ (by omega)]
    rfl
  · rw [leadByte?_none (Or.inr hfour)] at hlead
    cases hlead

/-! ### Texts -/

theorem utf8_cons (c : Char) (text : List Char) :
    utf8 (c :: text) = String.utf8EncodeChar c ++ utf8 text := List.flatMap_cons

theorem utf8_append (first second : List Char) :
    utf8 (first ++ second) = utf8 first ++ utf8 second := List.flatMap_append

theorem utf8_eq_nil_iff {text : List Char} : utf8 text = [] ↔ text = [] := by
  cases text with
  | nil => simp [utf8]
  | cons c text => simp [utf8_cons, String.utf8EncodeChar_ne_nil]

/-- A character of ASCII is in a text when its byte is in the encoding. -/
theorem mem_of_mem_utf8 {text : List Char} {c : Char} (hc : c.toNat < 128)
    (hmem : UInt8.ofNat c.toNat ∈ utf8 text) : c ∈ text := by
  obtain ⟨other, hother, hbyte⟩ := List.mem_flatMap.mp hmem
  have hvalue : (UInt8.ofNat c.toNat).toNat = c.toNat :=
    UInt8.toNat_ofNat_of_lt' (by omega : c.toNat < 256)
  rcases Nat.lt_or_ge other.toNat 128 with hascii | hbeyond
  · rw [utf8EncodeChar_one hascii, List.mem_singleton, ← UInt8.toNat_inj, hvalue,
      UInt8.toNat_ofNat_of_lt' (by omega : other.toNat < 256), Char.toNat_inj] at hbyte
    rwa [hbyte]
  · have hlarge := le_of_mem_utf8EncodeChar hbeyond hbyte
    omega

/-- A text whose encoding begins with a byte begins with the character that is read there. -/
theorem utf8_eq_cons {text : List Char} {byte : UInt8} {rest : List UInt8}
    (htext : utf8 text = byte :: rest) :
    ∃ c others, text = c :: others ∧ utf8Head byte rest = .char c (utf8 others) := by
  cases text with
  | nil => exact absurd htext (by simp [utf8])
  | cons c others =>
      rw [utf8_cons] at htext
      exact ⟨c, others, rfl, utf8Head_of_utf8EncodeChar htext.symm⟩

/-- Bytes decode to the characters whose encoding they are, and to nothing else. -/
theorem mapM_utf8Parts_eq_some_iff {fuel : ℕ} {bytes : List UInt8} {text : List Char}
    (hfuel : bytes.length ≤ fuel) :
    (utf8Parts fuel bytes).mapM id = some text ↔ utf8 text = bytes := by
  induction fuel generalizing bytes text with
  | zero =>
      obtain rfl := List.length_eq_zero_iff.mp (Nat.le_zero.mp hfuel)
      rw [utf8_eq_nil_iff]
      exact Option.some_inj.trans eq_comm
  | succ fuel ih =>
      cases bytes with
      | nil =>
          rw [utf8_eq_nil_iff]
          exact Option.some_inj.trans eq_comm
      | cons byte rest =>
          rw [utf8Parts]
          cases hhead : utf8Head byte rest with
          | broken length =>
              constructor
              · intro hnone
                simp at hnone
              · intro htext
                obtain ⟨c, others, -, hchar⟩ := utf8_eq_cons htext
                rw [hhead] at hchar
                cases hchar
          | char c after =>
              have hbytes := utf8EncodeChar_of_utf8Head hhead
              have hlength : after.length ≤ fuel := by
                have hpositive := List.length_pos_iff.mpr (@String.utf8EncodeChar_ne_nil c)
                have htotal := congrArg List.length hbytes
                rw [List.length_cons, List.length_append] at htotal
                rw [List.length_cons] at hfuel
                omega
              constructor
              · intro hdecoded
                simp only [List.mapM_cons, id_eq, Option.bind_eq_bind, Option.bind_some,
                  Option.bind_eq_some_iff, Option.pure_def, Option.some_inj] at hdecoded
                obtain ⟨others, hothers, rfl⟩ := hdecoded
                rw [utf8_cons, (ih hlength).mp hothers, hbytes]
              · intro htext
                obtain ⟨d, others, rfl, hchar⟩ := utf8_eq_cons htext
                rw [hhead] at hchar
                injection hchar with hc hafter
                simp [(ih hlength).mpr hafter.symm, hc]

/-- Decoding gives the text that bytes encode, and nothing for other bytes. -/
theorem ofUtf8?_eq_some_iff {bytes : List UInt8} {text : String} :
    ofUtf8? bytes = some text ↔ bytesOf text = bytes := by
  rw [ofUtf8?, Option.map_eq_some_iff, bytesOf]
  constructor
  · rintro ⟨decoded, hdecoded, rfl⟩
    rw [String.toList_ofList]
    exact (mapM_utf8Parts_eq_some_iff (Nat.le_refl _)).mp hdecoded
  · intro htext
    exact ⟨text.toList, (mapM_utf8Parts_eq_some_iff (Nat.le_refl _)).mpr htext,
      String.ofList_toList⟩

end MarkedRoutes.Text
