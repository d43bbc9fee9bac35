import MarkedRoutes.Json.Decoding
import MarkedRoutes.Proofs.Json.WrittenScalars
import Mathlib.Data.List.DropRight

/-!
# Strings as texts write them

What a text begins with is told by relations between the text, what is meant and what is left of
the text behind it.  A string goes up to its closing quote; between the quotes stand bytes that
mean themselves and escapes, which mean a character.  Exactly these strings are read, wherever in
a text they stand.
-/

namespace MarkedRoutes.Json

open MarkedRoutes.Text

variable {α β : Type} {text rest value : List UInt8} {place : Place}

/-! ### What readers leave -/

/-- A reader comes to a value and leaves the rest of the text. -/
def Leaves (outcome : Except Failure (α × Cursor)) (value : α) (rest : List UInt8) : Prop :=
  ∃ place, outcome = .ok (value, ⟨rest, place⟩)

theorem leaves_ok_iff {value other : α} {cursor : Cursor} :
    Leaves (.ok (value, cursor)) other rest ↔ value = other ∧ cursor.rest = rest := by
  constructor
  · rintro ⟨place, hok⟩
    cases hok
    exact ⟨rfl, rfl⟩
  · rintro ⟨rfl, rfl⟩
    exact ⟨cursor.place, rfl⟩

theorem not_leaves_error {failure : Failure} {value : α} : ¬ Leaves (.error failure) value rest :=
  fun ⟨_, herror⟩ => nomatch herror

/-- A reader that goes on behind another one leaves what it leaves from there. -/
theorem leaves_bind_iff {outcome : Except Failure (α × Cursor)}
    {next : α × Cursor → Except Failure (β × Cursor)} {value : β}
    {P Q : α → List UInt8 → Prop}
    (hfirst : ∀ first middle, Leaves outcome first middle ↔ P first middle)
    (hnext : ∀ first middle place, P first middle →
      (Leaves (next (first, ⟨middle, place⟩)) value rest ↔ Q first middle)) :
    Leaves (outcome >>= next) value rest ↔
      ∃ first middle, P first middle ∧ Q first middle := by
  constructor
  · rintro ⟨place, hboth⟩
    obtain ⟨⟨first, ⟨middle, between⟩⟩, houtcome, hvalue⟩ := bind_eq_ok_iff.mp hboth
    have hread := (hfirst first middle).mp ⟨between, houtcome⟩
    exact ⟨first, middle, hread, (hnext first middle between hread).mp ⟨place, hvalue⟩⟩
  · rintro ⟨first, middle, hread, hsecond⟩
    obtain ⟨between, houtcome⟩ := (hfirst first middle).mpr hread
    obtain ⟨place, hvalue⟩ := (hnext first middle between hread).mpr hsecond
    exact ⟨place, bind_eq_ok_iff.mpr ⟨_, houtcome, hvalue⟩⟩

theorem leaves_bind_ok_iff {outcome : Except Failure (α × Cursor)} {f : α → β} {value : β} :
    Leaves (outcome >>= fun found => .ok (f found.1, found.2)) value rest ↔
      ∃ first, Leaves outcome first rest ∧ f first = value := by
  have hok : ∀ first middle place, Leaves outcome first middle →
      (Leaves (.ok (f first, ⟨middle, place⟩)) value rest ↔
        f first = value ∧ middle = rest) := fun _ _ _ _ => leaves_ok_iff
  rw [leaves_bind_iff (fun _ _ => Iff.rfl) hok]
  constructor
  · rintro ⟨first, middle, hfirst, hvalue, rfl⟩
    exact ⟨first, hfirst, hvalue⟩
  · rintro ⟨first, hfirst, hvalue⟩
    exact ⟨first, rest, hfirst, hvalue, rfl⟩

theorem leaves_map_iff {outcome : Except Failure (α × Cursor)} {f : α → β} {value : β} :
    Leaves (outcome.map fun found => (f found.1, found.2)) value rest ↔
      ∃ first, Leaves outcome first rest ∧ f first = value := by
  have hmap : (outcome.map fun found => (f found.1, found.2)) =
      outcome >>= fun found => .ok (f found.1, found.2) := by cases outcome <;> rfl
  rw [hmap, leaves_bind_ok_iff]

/-! ### Blanks -/

/-- What is left of a text behind its blanks. -/
def afterBlanks (text : List UInt8) : List UInt8 := text.dropWhile Cursor.isBlankByte

theorem rest_skipBlanks (cursor : Cursor) : cursor.skipBlanks.rest = afterBlanks cursor.rest := by
  rw [Cursor.skipBlanks, afterBlanks]
  generalize cursor.place = place
  induction cursor.rest generalizing place with
  | nil => rfl
  | cons byte rest ih =>
      rw [Cursor.skipBlanksOf, List.dropWhile_cons]
      split
      · exact ih _
      · rfl

theorem length_afterBlanks_le (text : List UInt8) : (afterBlanks text).length ≤ text.length :=
  (List.dropWhile_suffix _).length_le

theorem byteChar_eq_iff {byte : UInt8} {c : Char} (hc : c.toNat < 128) :
    byteChar byte = c ↔ byte = UInt8.ofNat c.toNat := by
  constructor
  · rintro rfl
    rw [toNat_byteChar, UInt8.ofNat_toNat]
  · rintro rfl
    exact byteChar_ofNat hc

/-- A value is read from its first byte on, behind blanks. -/
theorem leaves_beginValue_iff {read : Cursor → Char → Except Failure (α × Cursor)} {value : α}
    {P : UInt8 → List UInt8 → Prop}
    (hread : ∀ byte more place, afterBlanks text = byte :: more →
      (Leaves (read ⟨byte :: more, place⟩ (byteChar byte)) value rest ↔ P byte more)) :
    Leaves (beginValue ⟨text, place⟩ read) value rest ↔
      ∃ byte more, afterBlanks text = byte :: more ∧ P byte more := by
  have hblanks := rest_skipBlanks ⟨text, place⟩
  rw [beginValue]
  generalize Cursor.skipBlanks ⟨text, place⟩ = behind at hblanks ⊢
  obtain ⟨left, place⟩ := behind
  dsimp only at hblanks
  rw [← hblanks] at hread ⊢
  cases left with
  | nil => exact iff_of_false not_leaves_error fun ⟨_, _, hnil, _⟩ => nomatch hnil
  | cons byte more =>
      refine (hread byte more place rfl).trans ⟨fun hvalue => ⟨byte, more, rfl, hvalue⟩, ?_⟩
      rintro ⟨_, _, hsame, hvalue⟩
      obtain ⟨rfl, rfl⟩ := List.cons.inj hsame
      exact hvalue

theorem afterBlanks_afterBlanks (text : List UInt8) :
    afterBlanks (afterBlanks text) = afterBlanks text :=
  List.dropWhile_idempotent _ _

theorem afterBlanks_cons {byte : UInt8} (htext : afterBlanks text = byte :: rest) :
    afterBlanks (byte :: rest) = byte :: rest := by
  rw [← htext, afterBlanks_afterBlanks]

theorem length_of_afterBlanks {byte : UInt8} (htext : afterBlanks text = byte :: rest) :
    rest.length < text.length := by
  have hlength := length_afterBlanks_le text
  rwa [htext] at hlength

/-! ### Escapes -/

def IsHexDigit (byte : UInt8) (digit : ℕ) : Prop :=
  (digit < 10 ∧ byte.toNat = 48 + digit) ∨
    (10 ≤ digit ∧ digit < 16 ∧ (byte.toNat = 55 + digit ∨ byte.toNat = 87 + digit))

/-- A text begins with four hexadecimal digits. -/
inductive WritesHex : List UInt8 → ℕ → List UInt8 → Prop
  | digits {a b c d : UInt8} {first second third fourth : ℕ} {rest : List UInt8}
      (hfirst : IsHexDigit a first) (hsecond : IsHexDigit b second) (hthird : IsHexDigit c third)
      (hfourth : IsHexDigit d fourth) :
      WritesHex (a :: b :: c :: d :: rest)
        (((first * 16 + second) * 16 + third) * 16 + fourth) rest

/-- The escapes of one byte behind the backslash. -/
def shortEscapes : List (UInt8 × Char) :=
  [(34, '"'), (92, '\\'), (47, '/'), (98, '\x08'), (102, '\x0c'), (110, '\n'), (114, '\r'),
    (116, '\t')]

/-- A text goes on, behind a backslash, with the escape of a character: a byte that is short for
it, its code point, or the two surrogates of its code point. -/
inductive WritesEscape : List UInt8 → Char → List UInt8 → Prop
  | short {mark : UInt8} {c : Char} {rest : List UInt8} (hmark : (mark, c) ∈ shortEscapes) :
      WritesEscape (mark :: rest) c rest
  | point {text rest : List UInt8} {number : ℕ} (hnumber : WritesHex text number rest)
      (hpoint : number < 0xD800 ∨ 0xDFFF < number) :
      WritesEscape (117 :: text) (Char.ofNat number) rest
  | pair {text next rest : List UInt8} {high low : ℕ}
      (hhigh : WritesHex text high (92 :: 117 :: next)) (hleads : 0xD800 ≤ high ∧ high ≤ 0xDBFF)
      (hlow : WritesHex next low rest) (htrails : 0xDC00 ≤ low ∧ low ≤ 0xDFFF) :
      WritesEscape (117 :: text)
        (Char.ofNat (0x10000 + (high - 0xD800) * 1024 + (low - 0xDC00))) rest

theorem hexValue?_eq_some_iff {byte : UInt8} {digit : ℕ} :
    hexValue? byte = some digit ↔ IsHexDigit byte digit := by
  simp only [hexValue?, IsHexDigit, Bool.and_eq_true, decide_eq_true_eq, UInt8.le_iff_toNat_le]
  have h1 : (48 : UInt8).toNat = 48 := rfl
  have h2 : (57 : UInt8).toNat = 57 := rfl
  have h3 : (65 : UInt8).toNat = 65 := rfl
  have h4 : (70 : UInt8).toNat = 70 := rfl
  have h5 : (97 : UInt8).toNat = 97 := rfl
  have h6 : (102 : UInt8).toNat = 102 := rfl
  split_ifs <;> simp only [Option.some_inj, false_iff] <;> omega

theorem leaves_readHex_iff {number : ℕ} :
    Leaves (readHex ⟨text, place⟩) number rest ↔ WritesHex text number rest := by
  constructor
  · rintro ⟨behind, hread⟩
    rw [readHex] at hread
    split at hread
    · next a b c d more htext =>
      split at hread
      · next first second third fourth hfirst hsecond hthird hfourth =>
        cases htext
        cases hread
        exact .digits (hexValue?_eq_some_iff.mp hfirst) (hexValue?_eq_some_iff.mp hsecond)
          (hexValue?_eq_some_iff.mp hthird) (hexValue?_eq_some_iff.mp hfourth)
      · cases hread
    · cases hread
  · rintro ⟨hfirst, hsecond, hthird, hfourth⟩
    rw [readHex]
    simp only [hexValue?_eq_some_iff.mpr hfirst, hexValue?_eq_some_iff.mpr hsecond,
      hexValue?_eq_some_iff.mpr hthird, hexValue?_eq_some_iff.mpr hfourth]
    exact ⟨_, rfl⟩

theorem leaves_readPairMark_iff {mark : Char} (hmark : mark.toNat < 128) {taken : Unit} :
    Leaves (readPairMark mark ⟨text, place⟩) taken rest ↔
      text = UInt8.ofNat mark.toNat :: rest := by
  cases text with
  | nil => exact iff_of_false not_leaves_error nofun
  | cons byte text =>
      have hread : readPairMark mark ⟨byte :: text, place⟩ =
          if byteChar byte = mark then .ok ((), ⟨text, Cursor.placeAfter place byte⟩)
          else (Cursor.mk text (Cursor.placeAfter place byte)).fail .unfinishedEscape := rfl
      rw [hread, List.cons.injEq, ← byteChar_eq_iff hmark]
      split
      · next hbyte =>
        rw [leaves_ok_iff]
        exact ⟨fun hleft => ⟨hbyte, hleft.2⟩, fun hboth => ⟨rfl, hboth.2⟩⟩
      · next hbyte => exact iff_of_false not_leaves_error fun hboth => hbyte hboth.1

theorem shortEscape?_eq_some_iff {byte : UInt8} {c : Char} :
    shortEscape? (byteChar byte) = some c ↔ (byte, c) ∈ shortEscapes := by
  constructor
  · intro hescape
    have hbyte : ∀ {mark : Char}, mark.toNat < 128 → (byteChar byte == mark) = true →
        byte = UInt8.ofNat mark.toNat := fun hmark hsame =>
      (byteChar_eq_iff hmark).mp (eq_of_beq hsame)
    rw [shortEscape?] at hescape
    split_ifs at hescape with hself hback hform hline hreturn htab
    · cases hescape
      simp only [Bool.or_eq_true] at hself
      rcases hself with (hself | hself) | hself <;>
        (rw [hbyte (by decide) hself]; decide)
    · cases hescape
      rw [hbyte (by decide) hback]
      decide
    · cases hescape
      rw [hbyte (by decide) hform]
      decide
    · cases hescape
      rw [hbyte (by decide) hline]
      decide
    · cases hescape
      rw [hbyte (by decide) hreturn]
      decide
    · cases hescape
      rw [hbyte (by decide) htab]
      decide
  · intro hmem
    simp only [shortEscapes, List.mem_cons, List.not_mem_nil, or_false, Prod.mk.injEq] at hmem
    rcases hmem with ⟨rfl, rfl⟩ | ⟨rfl, rfl⟩ | ⟨rfl, rfl⟩ | ⟨rfl, rfl⟩ | ⟨rfl, rfl⟩ | ⟨rfl, rfl⟩ |
      ⟨rfl, rfl⟩ | ⟨rfl, rfl⟩ <;> rfl

theorem not_mem_shortEscapes_u (c : Char) : (117, c) ∉ shortEscapes := by
  simp [shortEscapes]

/-- The code point of an escape is written by four digits, or by two surrogates of four digits
each. -/
theorem leaves_readCodePoint_iff {c : Char} :
    Leaves (readCodePoint ⟨text, place⟩) c rest ↔ WritesEscape (117 :: text) c rest := by
  constructor
  · rintro ⟨behind, hread⟩
    rw [readCodePoint] at hread
    obtain ⟨⟨first, middle⟩, hfirst, hread⟩ := bind_eq_ok_iff.mp hread
    have hhigh := leaves_readHex_iff.mp ⟨middle.place, hfirst⟩
    dsimp only at hread
    simp only [Bool.and_eq_true, Bool.or_eq_true, decide_eq_true_eq] at hread
    split_ifs at hread with htrails hpoint
    · cases hread
    · cases hread
      exact .point hhigh (by omega)
    · obtain ⟨⟨_, second⟩, hback, hread⟩ := bind_eq_ok_iff.mp hread
      obtain ⟨⟨_, third⟩, hmark, hread⟩ := bind_eq_ok_iff.mp hread
      obtain ⟨⟨low, last⟩, hlow, hread⟩ := bind_eq_ok_iff.mp hread
      have hback := (leaves_readPairMark_iff (by decide)).mp ⟨second.place, hback⟩
      have hmark := (leaves_readPairMark_iff (by decide)).mp ⟨third.place, hmark⟩
      have hlow := leaves_readHex_iff.mp ⟨last.place, hlow⟩
      dsimp only at hread
      split_ifs at hread with hlone
      · cases hread
      · obtain ⟨rfl, rfl⟩ := Prod.mk.inj (Except.ok.inj hread)
        rw [hback, hmark] at hhigh
        have hleads : 0xD800 ≤ first ∧ first ≤ 0xDBFF := by omega
        have hends : 0xDC00 ≤ low ∧ low ≤ 0xDFFF := by omega
        exact .pair hhigh hleads hlow hends
  · intro hwrites
    rw [readCodePoint]
    cases hwrites with
    | short hmark => exact absurd hmark (not_mem_shortEscapes_u c)
    | @point _ _ number hnumber hpoint =>
        obtain ⟨behind, hread⟩ := (@leaves_readHex_iff _ _ place _).mpr hnumber
        have htrails : ¬ (decide (0xDC00 ≤ number) && decide (number ≤ 0xDFFF)) = true := by
          simp only [Bool.and_eq_true, decide_eq_true_eq]
          omega
        have hplain : (decide (number < 0xD800) || decide (0xDBFF < number)) = true := by
          simp only [Bool.or_eq_true, decide_eq_true_eq]
          omega
        rw [hread, ok_bind]
        dsimp only
        rw [if_neg htrails, if_pos hplain]
        exact ⟨behind, rfl⟩
    | @pair _ next _ high low hhigh hleads hlow htrails =>
        obtain ⟨between, hread⟩ := (@leaves_readHex_iff _ _ place _).mpr hhigh
        obtain ⟨behind, hread'⟩ := (@leaves_readHex_iff _ _
          (Cursor.placeAfter (Cursor.placeAfter between 92) 117) _).mpr hlow
        have hfirst : ¬ (decide (0xDC00 ≤ high) && decide (high ≤ 0xDFFF)) = true := by
          simp only [Bool.and_eq_true, decide_eq_true_eq]
          omega
        have hplain : ¬ (decide (high < 0xD800) || decide (0xDBFF < high)) = true := by
          simp only [Bool.or_eq_true, decide_eq_true_eq]
          omega
        have hsecond : ¬ (decide (low < 0xDC00) || decide (0xDFFF < low)) = true := by
          simp only [Bool.or_eq_true, decide_eq_true_eq]
          omega
        have hback : readPairMark '\\' ⟨92 :: 117 :: next, between⟩ =
            .ok ((), ⟨117 :: next, Cursor.placeAfter between 92⟩) := rfl
        have hmark : readPairMark 'u' ⟨117 :: next, Cursor.placeAfter between 92⟩ =
            .ok ((), ⟨next, Cursor.placeAfter (Cursor.placeAfter between 92) 117⟩) := rfl
        rw [hread, ok_bind]
        dsimp only
        rw [if_neg hfirst, if_neg hplain, hback, ok_bind]
        dsimp only
        rw [hmark, ok_bind]
        dsimp only
        rw [hread', ok_bind]
        dsimp only
        rw [if_neg hsecond]
        exact ⟨behind, rfl⟩

theorem leaves_readEscape_iff {c : Char} :
    Leaves (readEscape ⟨text, place⟩) c rest ↔ WritesEscape text c rest := by
  cases text with
  | nil => exact iff_of_false not_leaves_error fun hwrites => by cases hwrites
  | cons byte text =>
      simp only [readEscape, Cursor.peek?, List.head?_cons, Cursor.advance]
      split
      · next hbyte =>
        rw [(byteChar_eq_iff (by decide)).mp hbyte]
        exact leaves_readCodePoint_iff
      · next hbyte =>
        have hother : byte ≠ 117 := fun hsame => hbyte ((byteChar_eq_iff (by decide)).mpr hsame)
        cases hescape : shortEscape? (byteChar byte) with
        | some escaped =>
            have hmem := shortEscape?_eq_some_iff.mp hescape
            dsimp only
            rw [leaves_ok_iff]
            constructor
            · rintro ⟨rfl, rfl⟩
              exact .short hmem
            · intro hwrites
              cases hwrites with
              | short hmark =>
                  rw [shortEscape?_eq_some_iff.mpr hmark] at hescape
                  exact ⟨(Option.some.inj hescape).symm, rfl⟩
              | point | pair => exact absurd rfl hother
        | none =>
            refine iff_of_false not_leaves_error fun hwrites => ?_
            cases hwrites with
            | short hmark =>
                rw [shortEscape?_eq_some_iff.mpr hmark] at hescape
                cases hescape
            | point | pair => exact hother rfl

theorem WritesHex.length_eq {number : ℕ} (hwrites : WritesHex text number rest) :
    text.length = rest.length + 4 := by
  obtain ⟨-, -, -, -⟩ := hwrites
  rfl

theorem WritesEscape.length_lt {c : Char} (hwrites : WritesEscape text c rest) :
    rest.length < text.length := by
  cases hwrites with
  | short => exact Nat.lt_succ_self _
  | point hnumber =>
      rw [List.length_cons, hnumber.length_eq]
      omega
  | pair hhigh _ hlow _ =>
      have hlength := hlow.length_eq
      rw [List.length_cons, hhigh.length_eq, List.length_cons, List.length_cons]
      omega

/-! ### Strings -/

/-- A text goes on, behind an opening quote, with bytes up to the closing one. -/
inductive WritesBytes : List UInt8 → List UInt8 → List UInt8 → Prop
  | quote {rest : List UInt8} : WritesBytes (34 :: rest) [] rest
  | byte {byte : UInt8} {text value rest : List UInt8} (hquote : byte ≠ 34)
      (hescape : byte ≠ 92) (hcontrol : 32 ≤ byte) (hmore : WritesBytes text value rest) :
      WritesBytes (byte :: text) (byte :: value) rest
  | escape {text next value rest : List UInt8} {c : Char} (hescape : WritesEscape text c next)
      (hmore : WritesBytes next value rest) :
      WritesBytes (92 :: text) (String.utf8EncodeChar c ++ value) rest

/-- A text begins with a string, behind blanks. -/
def WritesString (text : List UInt8) (value : String) (rest : List UInt8) : Prop :=
  ∃ next, afterBlanks text = 34 :: next ∧ WritesBytes next (bytesOf value) rest

theorem WritesBytes.length_lt (hwrites : WritesBytes text value rest) :
    rest.length < text.length := by
  induction hwrites with
  | quote => exact Nat.lt_succ_self _
  | byte _ _ _ _ ih => exact Nat.lt_succ_of_lt ih
  | escape hescape _ ih => exact Nat.lt_succ_of_lt (ih.trans hescape.length_lt)

theorem WritesString.length_lt {string : String} (hwrites : WritesString text string rest) :
    rest.length < text.length := by
  obtain ⟨next, hquote, hbytes⟩ := hwrites
  exact hbytes.length_lt.trans (length_of_afterBlanks hquote)

theorem leaves_readStringBytes_iff {fuel : ℕ} (hfuel : text.length < fuel) :
    Leaves (readStringBytes fuel ⟨text, place⟩) value rest ↔ WritesBytes text value rest := by
  induction fuel generalizing text place value with
  | zero => cases hfuel
  | succ fuel ih =>
      cases text with
      | nil => exact iff_of_false not_leaves_error nofun
      | cons byte text =>
          have hfuel' : text.length < fuel := Nat.lt_of_succ_lt_succ hfuel
          have hread : readStringBytes (fuel + 1) ⟨byte :: text, place⟩ =
              if byteChar byte = '"' then .ok ([], ⟨text, Cursor.placeAfter place byte⟩)
              else if byteChar byte = '\\' then
                readEscape ⟨text, Cursor.placeAfter place byte⟩ >>= fun escaped =>
                  readStringBytes fuel escaped.2 >>= fun others =>
                    .ok (String.utf8EncodeChar escaped.1 ++ others.1, others.2)
              else if byte < 32 then
                (Cursor.mk text (Cursor.placeAfter place byte)).fail .controlCharacter
              else
                readStringBytes fuel ⟨text, Cursor.placeAfter place byte⟩ >>= fun others =>
                  .ok (byte :: others.1, others.2) := rfl
          rw [hread]
          split_ifs with hquote hescape hcontrol
          · obtain rfl := (byteChar_eq_iff (by decide)).mp hquote
            rw [leaves_ok_iff]
            constructor
            · rintro ⟨rfl, rfl⟩
              exact .quote
            · intro hwrites
              cases hwrites with
              | quote => exact ⟨rfl, rfl⟩
              | byte hother => exact absurd rfl hother
          · obtain rfl := (byteChar_eq_iff (by decide)).mp hescape
            have hothers : ∀ c next between, WritesEscape text c next →
                (Leaves (readStringBytes fuel ⟨next, between⟩ >>= fun others =>
                    .ok (String.utf8EncodeChar c ++ others.1, others.2)) value rest ↔
                  ∃ others, WritesBytes next others rest ∧
                    String.utf8EncodeChar c ++ others = value) := by
              intro c next between hwrites
              rw [leaves_bind_ok_iff]
              simp only [ih (hwrites.length_lt.trans hfuel')]
            rw [leaves_bind_iff (fun _ _ => leaves_readEscape_iff) hothers]
            constructor
            · rintro ⟨c, next, hwrites, others, hmore, rfl⟩
              exact .escape hwrites hmore
            · intro hwrites
              cases hwrites with
              | byte _ hother => exact absurd rfl hother
              | escape hwrites hmore => exact ⟨_, _, hwrites, _, hmore, rfl⟩
          · refine iff_of_false not_leaves_error fun hwrites => ?_
            cases hwrites with
            | quote => exact hquote rfl
            | byte _ _ hvisible => exact absurd hcontrol (UInt8.not_lt.mpr hvisible)
            | escape => exact hescape rfl
          · rw [leaves_bind_ok_iff]
            simp only [ih hfuel']
            constructor
            · rintro ⟨others, hmore, rfl⟩
              exact .byte (fun hsame => hquote ((byteChar_eq_iff (by decide)).mpr hsame))
                (fun hsame => hescape ((byteChar_eq_iff (by decide)).mpr hsame))
                (UInt8.not_lt.mp hcontrol) hmore
            · intro hwrites
              cases hwrites with
              | quote => exact absurd rfl hquote
              | byte _ _ _ hmore => exact ⟨_, hmore, rfl⟩
              | escape => exact absurd rfl hescape

theorem leaves_readStringRest_iff {string : String} :
    Leaves (readStringRest ⟨text, place⟩) string rest ↔
      WritesBytes text (bytesOf string) rest := by
  rw [readStringRest, leaves_bind_iff
    (fun _ _ => leaves_readStringBytes_iff (Nat.lt_succ_self text.length))
    (Q := fun value left => bytesOf string = value ∧ left = rest)]
  · constructor
    · rintro ⟨value, left, hwrites, rfl, rfl⟩
      exact hwrites
    · intro hwrites
      exact ⟨_, _, hwrites, rfl, rfl⟩
  · intro value left between _
    dsimp only
    cases hdecoded : ofUtf8? value with
    | some found =>
        have hfound := ofUtf8?_eq_some_iff.mp hdecoded
        dsimp only
        rw [leaves_ok_iff]
        constructor
        · rintro ⟨rfl, rfl⟩
          exact ⟨hfound, rfl⟩
        · rintro ⟨rfl, rfl⟩
          rw [ofUtf8?_eq_some_iff.mpr rfl] at hdecoded
          exact ⟨(Option.some.inj hdecoded).symm, rfl⟩
    | none =>
        refine iff_of_false not_leaves_error ?_
        rintro ⟨rfl, -⟩
        rw [ofUtf8?_eq_some_iff.mpr rfl] at hdecoded
        cases hdecoded

end MarkedRoutes.Json
