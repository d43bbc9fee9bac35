import MarkedRoutes.Json.Records
import MarkedRoutes.Proofs.Json.StringLengths
import MarkedRoutes.Proofs.Json.StringTexts

/-!
# Values that are skipped

The value of a member that no field takes is skipped.  Any value is, with lists and objects to any
depth; its strings and numbers are only checked for their form.  The skipper keeps the open lists
and objects on a stack, and passes exactly what the grammar derives.
-/

namespace MarkedRoutes.Json

open MarkedRoutes.Text

variable {α : Type} {text rest : List UInt8} {place : Place} {cursor : Cursor} {taken : Unit}

/-! ### Digits -/

def StartsDigit (text : List UInt8) : Prop := text.head?.any isDigitByte = true

/-- What is left of a text behind its digits. -/
def afterDigits (text : List UInt8) : List UInt8 := text.dropWhile isDigitByte

theorem rest_skipDigits (cursor : Cursor) : (skipDigits cursor).rest = afterDigits cursor.rest := by
  rw [skipDigits, Cursor.rest_advanceBy, digitsAt, afterDigits]
  nth_rewrite 2 [← List.takeWhile_append_dropWhile (p := isDigitByte) (l := cursor.rest)]
  exact List.drop_left

theorem length_afterDigits_le (text : List UInt8) : (afterDigits text).length ≤ text.length :=
  (List.dropWhile_suffix _).length_le

theorem length_afterDigits_lt (hdigit : StartsDigit text) :
    (afterDigits text).length < text.length := by
  cases text with
  | nil => cases hdigit
  | cons byte text =>
      rw [StartsDigit, List.head?_cons, Option.any_some] at hdigit
      rw [afterDigits, List.dropWhile_cons_of_pos hdigit]
      exact Nat.lt_succ_of_le (length_afterDigits_le text)

theorem startsWith_iff {c : Char} :
    cursor.startsWith c = true ↔ cursor.rest.head? = some (UInt8.ofNat c.toNat) := by
  rw [Cursor.startsWith, beq_iff_eq, Cursor.peek?]

theorem rest_advance_of_cons {byte : UInt8} {behind : List UInt8}
    (htext : cursor.rest = byte :: behind) : cursor.advance.rest = behind := by
  rw [Cursor.advance, htext]

/-- A reader that wants a byte leaves what it leaves behind the byte. -/
theorem leaves_behind_iff {c : Char} {atEnd found otherwise : Except Failure (α × Cursor)}
    {value : α} {P : List UInt8 → Prop} (hend : ¬ Leaves atEnd value rest)
    (hfound : ∀ behind, cursor.rest = UInt8.ofNat c.toNat :: behind →
      (Leaves found value rest ↔ P behind))
    (hother : ¬ Leaves otherwise value rest) :
    Leaves (if cursor.rest.isEmpty then atEnd
        else if cursor.startsWith c then found else otherwise) value rest ↔
      ∃ behind, cursor.rest = UInt8.ofNat c.toNat :: behind ∧ P behind := by
  split
  · next hempty =>
    refine iff_of_false hend ?_
    rintro ⟨behind, htext, -⟩
    rw [htext] at hempty
    cases hempty
  · split
    · next hstarts =>
      obtain ⟨behind, htext⟩ := List.head?_eq_some_iff.mp (startsWith_iff.mp hstarts)
      rw [hfound behind htext, htext]
      constructor
      · exact fun hbehind => ⟨behind, rfl, hbehind⟩
      · rintro ⟨other, hsame, hother⟩
        exact (List.cons.inj hsame).2 ▸ hother
    · next hstarts =>
      refine iff_of_false hother ?_
      rintro ⟨behind, htext, -⟩
      exact hstarts (startsWith_iff.mpr (by rw [htext]; rfl))

/-- A reader of one byte leaves what stands behind it. -/
theorem leaves_mark_iff {c : Char} {atEnd otherwise : Except Failure (Unit × Cursor)}
    (hend : ¬ Leaves atEnd taken rest) (hother : ¬ Leaves otherwise taken rest) :
    Leaves (if cursor.rest.isEmpty then atEnd
        else if cursor.startsWith c then .ok ((), cursor.advance) else otherwise) taken rest ↔
      cursor.rest = UInt8.ofNat c.toNat :: rest := by
  refine (leaves_behind_iff (P := fun behind => behind = rest) hend (fun behind htext => ?_)
    hother).trans ?_
  · rw [leaves_ok_iff, rest_advance_of_cons htext]
    exact and_iff_right rfl
  · constructor
    · rintro ⟨behind, htext, rfl⟩
      exact htext
    · exact fun htext => ⟨rest, htext, rfl⟩

/-! ### Numbers -/

/-- A text begins with the digits of a whole number, of which a zero is the only one. -/
inductive PassesWhole : List UInt8 → List UInt8 → Prop
  | zero {rest : List UInt8} (hrest : ¬ StartsDigit rest) : PassesWhole (48 :: rest) rest
  | digits {text : List UInt8} (hdigit : StartsDigit text) (hzero : text.head? ≠ some 48) :
      PassesWhole text (afterDigits text)

/-- A text begins with a point and digits behind it, or with no point. -/
inductive PassesFraction : List UInt8 → List UInt8 → Prop
  | none {text : List UInt8} (hpoint : text.head? ≠ some 46) : PassesFraction text text
  | digits {text : List UInt8} (hdigit : StartsDigit text) :
      PassesFraction (46 :: text) (afterDigits text)

/-- What is left of a text behind a sign, if it begins with one. -/
def afterSign : List UInt8 → List UInt8
  | 43 :: rest => rest
  | 45 :: rest => rest
  | text => text

/-- A text begins with an exponent, whose mark is a small or a capital e, or with no such mark. -/
inductive PassesExponent : List UInt8 → List UInt8 → Prop
  | none {text : List UInt8} (hsmall : text.head? ≠ some 101) (hcapital : text.head? ≠ some 69) :
      PassesExponent text text
  | digits {mark : UInt8} {text : List UInt8} (hmark : mark = 101 ∨ mark = 69)
      (hdigit : StartsDigit (afterSign text)) :
      PassesExponent (mark :: text) (afterDigits (afterSign text))

/-- A text begins with a number without a sign. -/
def PassesNumber (text rest : List UInt8) : Prop :=
  ∃ first second, PassesWhole text first ∧ PassesFraction first second ∧ PassesExponent second rest

theorem rest_exponentSign (cursor : Cursor) :
    (exponentSign cursor).2.rest = afterSign cursor.rest := by
  obtain ⟨text, place⟩ := cursor
  rw [exponentSign]
  split_ifs with hplus hminus
  · obtain ⟨more, hmore⟩ := List.head?_eq_some_iff.mp (startsWith_iff.mp hplus)
    dsimp only at hmore
    subst hmore
    rfl
  · obtain ⟨more, hmore⟩ := List.head?_eq_some_iff.mp (startsWith_iff.mp hminus)
    dsimp only at hmore
    subst hmore
    rfl
  · dsimp only
    rw [afterSign.eq_def]
    split
    · exact absurd (startsWith_iff.mpr rfl) hplus
    · exact absurd (startsWith_iff.mpr rfl) hminus
    · rfl

theorem leaves_skipOptionalExponent_iff :
    Leaves (skipOptionalExponent cursor) taken rest ↔ PassesExponent cursor.rest rest := by
  obtain ⟨text, place⟩ := cursor
  have hstarts : startsExponent ⟨text, place⟩ = true ↔
      text.head? = some 101 ∨ text.head? = some 69 := by
    rw [startsExponent, Bool.or_eq_true, startsWith_iff, startsWith_iff]
    rfl
  rw [skipOptionalExponent]
  split
  · next hmark =>
    obtain ⟨mark, more, rfl⟩ : ∃ mark more, text = mark :: more := by
      cases text with
      | nil => cases hmark
      | cons mark more => exact ⟨mark, more, rfl⟩
    have hmark : mark = 101 ∨ mark = 69 := by simpa using hstarts.mp hmark
    have hskip : skipExponent ⟨mark :: more, place⟩ =
        let behind := (exponentSign ⟨more, Cursor.placeAfter place mark⟩).2
        if behind.startsDigit then .ok ((), skipDigits behind)
        else behind.advance.fail .invalidNumber := rfl
    have hsign := rest_exponentSign ⟨more, Cursor.placeAfter place mark⟩
    rw [hskip]
    dsimp only
    split
    · next hdigit =>
      rw [Cursor.startsDigit, Cursor.peek?, hsign] at hdigit
      rw [leaves_ok_iff, rest_skipDigits, hsign]
      constructor
      · rintro ⟨-, rfl⟩
        exact .digits hmark hdigit
      · intro hpasses
        cases hpasses with
        | none hsmall hcapital =>
            rcases hmark with rfl | rfl
            · exact absurd rfl hsmall
            · exact absurd rfl hcapital
        | digits => exact ⟨rfl, rfl⟩
    · next hdigit =>
      rw [Cursor.startsDigit, Cursor.peek?, hsign] at hdigit
      refine iff_of_false not_leaves_error fun hpasses => ?_
      cases hpasses with
      | none hsmall hcapital =>
          rcases hmark with rfl | rfl
          · exact hsmall rfl
          · exact hcapital rfl
      | digits _ hstarts => exact hdigit hstarts
  · next hmark =>
    rw [leaves_ok_iff]
    constructor
    · rintro ⟨-, rfl⟩
      exact .none (fun hsmall => hmark (hstarts.mpr (Or.inl hsmall)))
        fun hcapital => hmark (hstarts.mpr (Or.inr hcapital))
    · intro hpasses
      cases hpasses with
      | none => exact ⟨rfl, rfl⟩
      | digits hother =>
          refine absurd (hstarts.mpr ?_) hmark
          rcases hother with rfl | rfl
          · exact Or.inl rfl
          · exact Or.inr rfl

theorem leaves_skipNumberEnd_iff :
    Leaves (skipNumberEnd cursor) taken rest ↔
      ∃ middle, PassesFraction cursor.rest middle ∧ PassesExponent middle rest := by
  obtain ⟨text, place⟩ := cursor
  rw [skipNumberEnd]
  split
  · next hpoint =>
    obtain ⟨more, htext⟩ := List.head?_eq_some_iff.mp (startsWith_iff.mp hpoint)
    obtain rfl : text = 46 :: more := htext
    have hadvance : Cursor.advance ⟨46 :: more, place⟩ = ⟨more, Cursor.placeAfter place 46⟩ := rfl
    rw [hadvance]
    split
    · next hdigit =>
      rw [leaves_skipOptionalExponent_iff, rest_skipDigits]
      constructor
      · intro hexponent
        exact ⟨_, .digits hdigit, hexponent⟩
      · rintro ⟨middle, hfraction, hexponent⟩
        cases hfraction with
        | none hother => exact absurd rfl hother
        | digits => exact hexponent
    · next hdigit =>
      refine iff_of_false not_leaves_error ?_
      rintro ⟨middle, hfraction, -⟩
      cases hfraction with
      | none hother => exact hother rfl
      | digits hstarts => exact hdigit hstarts
  · next hpoint =>
    rw [leaves_skipOptionalExponent_iff]
    constructor
    · intro hexponent
      exact ⟨_, .none fun hhead => hpoint (startsWith_iff.mpr hhead), hexponent⟩
    · rintro ⟨middle, hfraction, hexponent⟩
      cases hfraction with
      | none => exact hexponent
      | digits => exact absurd (startsWith_iff.mpr rfl) hpoint

theorem leaves_skipNumber_iff :
    Leaves (skipNumber cursor) taken rest ↔ PassesNumber cursor.rest rest := by
  obtain ⟨text, place⟩ := cursor
  rw [skipNumber]
  split
  · next hzero =>
    obtain ⟨more, htext⟩ := List.head?_eq_some_iff.mp (startsWith_iff.mp hzero)
    obtain rfl : text = 48 :: more := htext
    have hadvance : Cursor.advance ⟨48 :: more, place⟩ = ⟨more, Cursor.placeAfter place 48⟩ := rfl
    rw [hadvance]
    split
    · next hdigit =>
      refine iff_of_false not_leaves_error ?_
      rintro ⟨first, second, hwhole, -⟩
      cases hwhole with
      | zero hrest => exact hrest hdigit
      | digits _ hother => exact hother rfl
    · next hdigit =>
      rw [leaves_skipNumberEnd_iff]
      constructor
      · rintro ⟨middle, hfraction, hexponent⟩
        exact ⟨_, _, .zero hdigit, hfraction, hexponent⟩
      · rintro ⟨first, second, hwhole, hfraction, hexponent⟩
        cases hwhole with
        | zero => exact ⟨_, hfraction, hexponent⟩
        | digits _ hother => exact absurd rfl hother
  · next hzero =>
    split
    · next hdigit =>
      rw [leaves_skipNumberEnd_iff, rest_skipDigits]
      constructor
      · rintro ⟨middle, hfraction, hexponent⟩
        exact ⟨_, _, .digits hdigit fun hhead => hzero (startsWith_iff.mpr hhead), hfraction,
          hexponent⟩
      · rintro ⟨first, second, hwhole, hfraction, hexponent⟩
        cases hwhole with
        | zero => exact absurd (startsWith_iff.mpr rfl) hzero
        | digits => exact ⟨_, hfraction, hexponent⟩
    · next hdigit =>
      refine iff_of_false not_leaves_error ?_
      rintro ⟨first, second, hwhole, -⟩
      cases hwhole with
      | zero => exact hzero (startsWith_iff.mpr rfl)
      | digits hstarts => exact hdigit hstarts

theorem PassesExponent.length_le (hpasses : PassesExponent text rest) :
    rest.length ≤ text.length := by
  cases hpasses with
  | none => exact Nat.le_refl _
  | @digits mark text _ hdigit =>
      have hsign : (afterSign text).length ≤ text.length := by
        rw [afterSign.eq_def]
        split <;> simp
      exact (length_afterDigits_le _).trans (hsign.trans (Nat.le_succ _))

theorem PassesNumber.length_lt (hpasses : PassesNumber text rest) :
    rest.length < text.length := by
  obtain ⟨first, second, hwhole, hfraction, hexponent⟩ := hpasses
  have hfirst : first.length < text.length := by
    cases hwhole with
    | zero => exact Nat.lt_succ_self _
    | digits hdigit => exact length_afterDigits_lt hdigit
  have hsecond : second.length ≤ first.length := by
    cases hfraction with
    | none => exact Nat.le_refl _
    | digits => exact (length_afterDigits_le _).trans (Nat.le_succ _)
  exact (hexponent.length_le.trans hsecond).trans_lt hfirst

/-! ### Strings -/

/-- A text goes on, behind a backslash, with the form of an escape. -/
inductive PassesEscape : List UInt8 → List UInt8 → Prop
  | short {mark : UInt8} {c : Char} {rest : List UInt8} (hmark : (mark, c) ∈ shortEscapes) :
      PassesEscape (mark :: rest) rest
  | digits {text rest : List UInt8} {number : ℕ} (hnumber : WritesHex text number rest) :
      PassesEscape (117 :: text) rest

/-- A text goes on, behind an opening quote, with what may stand before the closing one. -/
inductive PassesBytes : List UInt8 → List UInt8 → Prop
  | quote {rest : List UInt8} : PassesBytes (34 :: rest) rest
  | byte {byte : UInt8} {text rest : List UInt8} (hquote : byte ≠ 34) (hescape : byte ≠ 92)
      (hcontrol : 32 ≤ byte) (hmore : PassesBytes text rest) : PassesBytes (byte :: text) rest
  | escape {text next rest : List UInt8} (hescape : PassesEscape text next)
      (hmore : PassesBytes next rest) : PassesBytes (92 :: text) rest

theorem leaves_skipEscape_iff :
    Leaves (skipEscape ⟨text, place⟩) taken rest ↔ PassesEscape text rest := by
  cases text with
  | nil => exact iff_of_false not_leaves_error nofun
  | cons byte text =>
      have hread : skipEscape ⟨byte :: text, place⟩ =
          if byteChar byte = 'u' then
            readHex ⟨text, Cursor.placeAfter place byte⟩ >>= fun found => .ok ((), found.2)
          else if (shortEscape? (byteChar byte)).isSome then
            .ok ((), ⟨text, Cursor.placeAfter place byte⟩)
          else (Cursor.mk text (Cursor.placeAfter place byte)).fail .invalidEscape := rfl
      rw [hread]
      split_ifs with hbyte hescape
      · rw [(byteChar_eq_iff (by decide)).mp hbyte,
          leaves_bind_ok_iff (f := fun _ => ())]
        simp only [leaves_readHex_iff, and_true]
        constructor
        · rintro ⟨number, hnumber⟩
          exact .digits hnumber
        · intro hpasses
          cases hpasses with
          | short hmark => exact absurd hmark (not_mem_shortEscapes_u _)
          | digits hnumber => exact ⟨_, hnumber⟩
      · obtain ⟨c, hc⟩ := Option.isSome_iff_exists.mp hescape
        rw [leaves_ok_iff]
        constructor
        · rintro ⟨-, rfl⟩
          exact .short (shortEscape?_eq_some_iff.mp hc)
        · intro hpasses
          cases hpasses with
          | short => exact ⟨rfl, rfl⟩
          | digits => exact absurd rfl hbyte
      · refine iff_of_false not_leaves_error fun hpasses => ?_
        cases hpasses with
        | short hmark => exact hescape (by rw [shortEscape?_eq_some_iff.mpr hmark]; rfl)
        | digits => exact hbyte rfl

theorem PassesEscape.length_lt (hpasses : PassesEscape text rest) : rest.length < text.length := by
  cases hpasses with
  | short => exact Nat.lt_succ_self _
  | digits hnumber =>
      rw [List.length_cons, hnumber.length_eq]
      omega

theorem PassesBytes.length_lt (hpasses : PassesBytes text rest) : rest.length < text.length := by
  induction hpasses with
  | quote => exact Nat.lt_succ_self _
  | byte _ _ _ _ ih => exact Nat.lt_succ_of_lt ih
  | escape hescape _ ih => exact Nat.lt_succ_of_lt (ih.trans hescape.length_lt)

theorem leaves_skipStringBytes_iff {fuel : ℕ} (hfuel : text.length < fuel) :
    Leaves (skipStringBytes fuel ⟨text, place⟩) taken rest ↔ PassesBytes text rest := by
  induction fuel generalizing text place with
  | zero => cases hfuel
  | succ fuel ih =>
      cases text with
      | nil => exact iff_of_false not_leaves_error nofun
      | cons byte text =>
          have hfuel' : text.length < fuel := Nat.lt_of_succ_lt_succ hfuel
          have hread : skipStringBytes (fuel + 1) ⟨byte :: text, place⟩ =
              if byteChar byte = '"' then .ok ((), ⟨text, Cursor.placeAfter place byte⟩)
              else if byteChar byte = '\\' then
                skipEscape ⟨text, Cursor.placeAfter place byte⟩ >>= fun escaped =>
                  skipStringBytes fuel escaped.2
              else if byte < 32 then (Cursor.mk (byte :: text) place).fail .controlCharacter
              else skipStringBytes fuel ⟨text, Cursor.placeAfter place byte⟩ := rfl
          rw [hread]
          split_ifs with hquote hescape hcontrol
          · obtain rfl := (byteChar_eq_iff (by decide)).mp hquote
            rw [leaves_ok_iff]
            constructor
            · rintro ⟨-, rfl⟩
              exact .quote
            · intro hpasses
              cases hpasses with
              | quote => exact ⟨rfl, rfl⟩
              | byte hother => exact absurd rfl hother
          · obtain rfl := (byteChar_eq_iff (by decide)).mp hescape
            rw [leaves_bind_iff (fun _ _ => leaves_skipEscape_iff) fun _ next between hpasses =>
              ih (hpasses.length_lt.trans hfuel')]
            constructor
            · rintro ⟨-, next, hpasses, hmore⟩
              exact .escape hpasses hmore
            · intro hpasses
              cases hpasses with
              | byte _ hother => exact absurd rfl hother
              | escape hpasses hmore => exact ⟨(), _, hpasses, hmore⟩
          · refine iff_of_false not_leaves_error fun hpasses => ?_
            cases hpasses with
            | quote => exact hquote rfl
            | byte _ _ hvisible => exact absurd hcontrol (UInt8.not_lt.mpr hvisible)
            | escape => exact hescape rfl
          · rw [ih hfuel']
            constructor
            · intro hmore
              exact .byte (fun hsame => hquote ((byteChar_eq_iff (by decide)).mpr hsame))
                (fun hsame => hescape ((byteChar_eq_iff (by decide)).mpr hsame))
                (UInt8.not_lt.mp hcontrol) hmore
            · intro hpasses
              cases hpasses with
              | quote => exact absurd rfl hquote
              | byte _ _ _ hmore => exact hmore
              | escape => exact absurd rfl hescape

theorem leaves_skipStringRest_iff :
    Leaves (skipStringRest ⟨text, place⟩) taken rest ↔ PassesBytes text rest :=
  leaves_skipStringBytes_iff (Nat.lt_succ_self text.length)

/-! ### Words and numbers -/

/-- A text begins with a value that is no list or object. -/
inductive PassesScalar : List UInt8 → List UInt8 → Prop
  | word {word : String} {rest : List UInt8} (hword : word ∈ ["null", "true", "false"]) :
      PassesScalar (bytesOf word ++ rest) rest
  | number {text rest : List UInt8} (hnumber : PassesNumber text rest) : PassesScalar text rest
  | negative {text rest : List UInt8} (hnumber : PassesNumber text rest) :
      PassesScalar (45 :: text) rest
  | string {text rest : List UInt8} (hstring : PassesBytes text rest) :
      PassesScalar (34 :: text) rest

theorem PassesScalar.length_lt (hpasses : PassesScalar text rest) : rest.length < text.length := by
  cases hpasses with
  | @word word _ hword =>
      rw [List.length_append]
      have hlength : 0 < (bytesOf word).length := by
        simp only [List.mem_cons, List.not_mem_nil, or_false] at hword
        rcases hword with rfl | rfl | rfl <;> decide
      omega
  | number hnumber => exact hnumber.length_lt
  | negative hnumber => exact Nat.lt_succ_of_lt hnumber.length_lt
  | string hstring => exact Nat.lt_succ_of_lt hstring.length_lt

theorem leaves_readRest_iff {word : List Char} (hword : ∀ c ∈ word, c.toNat < 128) :
    Leaves (readRest word ⟨text, place⟩) taken rest ↔
      text = word.map (fun c => UInt8.ofNat c.toNat) ++ rest := by
  induction word generalizing text place with
  | nil =>
      rw [readRest, leaves_ok_iff]
      exact ⟨fun hleft => hleft.2, fun htext => ⟨rfl, htext⟩⟩
  | cons c word ih =>
      rw [List.forall_mem_cons] at hword
      cases text with
      | nil => exact iff_of_false not_leaves_error nofun
      | cons byte text =>
          have hread : readRest (c :: word) ⟨byte :: text, place⟩ =
              if byteChar byte = c then readRest word ⟨text, Cursor.placeAfter place byte⟩
              else (Cursor.mk text (Cursor.placeAfter place byte)).fail .expectedWord := rfl
          rw [hread, List.map_cons, List.cons_append, List.cons.injEq, ← byteChar_eq_iff hword.1]
          split
          · next hbyte =>
            rw [ih hword.2]
            exact ⟨fun htext => ⟨hbyte, htext⟩, fun hboth => hboth.2⟩
          · next hbyte => exact iff_of_false not_leaves_error fun hboth => hbyte hboth.1

/-- The bytes that a number without a sign begins with are digits. -/
theorem PassesNumber.startsDigit (hpasses : PassesNumber text rest) : StartsDigit text := by
  obtain ⟨first, second, hwhole, -⟩ := hpasses
  cases hwhole with
  | zero => rfl
  | digits hdigit => exact hdigit

/-- The first byte of a value tells of which kind it is. -/
theorem passesScalar_cons_iff {byte : UInt8} :
    PassesScalar (byte :: text) rest ↔
      (byte = 110 ∧ text = "ull".toList.map (fun c => UInt8.ofNat c.toNat) ++ rest) ∨
      (byte = 116 ∧ text = "rue".toList.map (fun c => UInt8.ofNat c.toNat) ++ rest) ∨
      (byte = 102 ∧ text = "alse".toList.map (fun c => UInt8.ofNat c.toNat) ++ rest) ∨
      (byte = 45 ∧ PassesNumber text rest) ∨ (byte = 34 ∧ PassesBytes text rest) ∨
      (isDigitByte byte = true ∧ PassesNumber (byte :: text) rest) := by
  constructor
  · generalize hwhole : byte :: text = whole
    intro hpasses
    cases hpasses with
    | word hword =>
        simp only [List.mem_cons, List.not_mem_nil, or_false] at hword
        rcases hword with rfl | rfl | rfl
        · exact Or.inl (List.cons.inj hwhole)
        · exact Or.inr (Or.inl (List.cons.inj hwhole))
        · exact Or.inr (Or.inr (Or.inl (List.cons.inj hwhole)))
    | number hnumber =>
        subst hwhole
        exact Or.inr (Or.inr (Or.inr (Or.inr (Or.inr ⟨hnumber.startsDigit, hnumber⟩))))
    | negative hnumber =>
        obtain ⟨rfl, rfl⟩ := List.cons.inj hwhole
        exact Or.inr (Or.inr (Or.inr (Or.inl ⟨rfl, hnumber⟩)))
    | string hstring =>
        obtain ⟨rfl, rfl⟩ := List.cons.inj hwhole
        exact Or.inr (Or.inr (Or.inr (Or.inr (Or.inl ⟨rfl, hstring⟩))))
  · have hwords : ∀ {word}, word ∈ ["null", "true", "false"] → PassesScalar (bytesOf word ++ rest)
        rest := fun hword => .word hword
    rintro (⟨rfl, rfl⟩ | ⟨rfl, rfl⟩ | ⟨rfl, rfl⟩ | ⟨rfl, hnumber⟩ | ⟨rfl, hstring⟩ | ⟨-, hnumber⟩)
    · exact hwords (.head _)
    · exact hwords (.tail _ (.head _))
    · exact hwords (.tail _ (.tail _ (.head _)))
    · exact .negative hnumber
    · exact .string hstring
    · exact .number hnumber

theorem leaves_skipScalar_iff {byte : UInt8} :
    Leaves (skipScalar ⟨byte :: text, place⟩ (byteChar byte)) taken rest ↔
      PassesScalar (byte :: text) rest := by
  have hread : skipScalar ⟨byte :: text, place⟩ (byteChar byte) =
      let behind : Cursor := ⟨text, Cursor.placeAfter place byte⟩
      if byteChar byte = 'n' then readRest "ull".toList behind
      else if byteChar byte = 't' then readRest "rue".toList behind
      else if byteChar byte = 'f' then readRest "alse".toList behind
      else if byteChar byte = '-' then skipNumber behind
      else if byteChar byte = '"' then skipStringRest behind
      else if isDigitByte byte then skipNumber ⟨byte :: text, place⟩
      else (Cursor.mk (byte :: text) place).failNext .expectedValue := rfl
  have hbyte : ∀ {c : Char}, c.toNat < 128 → (byteChar byte = c ↔ byte = UInt8.ofNat c.toNat) :=
    byteChar_eq_iff
  rw [hread, passesScalar_cons_iff]
  dsimp only
  split_ifs with hnull htrue hfalse hminus hquote hdigit
  · obtain rfl := (hbyte (by decide)).mp hnull
    rw [leaves_readRest_iff (by simp)]
    simp [isDigitByte]
  · obtain rfl := (hbyte (by decide)).mp htrue
    rw [leaves_readRest_iff (by simp)]
    simp [isDigitByte]
  · obtain rfl := (hbyte (by decide)).mp hfalse
    rw [leaves_readRest_iff (by simp)]
    simp [isDigitByte]
  · obtain rfl := (hbyte (by decide)).mp hminus
    rw [leaves_skipNumber_iff]
    simp [isDigitByte]
  · obtain rfl := (hbyte (by decide)).mp hquote
    rw [leaves_skipStringRest_iff]
    simp [isDigitByte]
  all_goals
    have hnull : byte ≠ 110 := fun hsame => hnull ((hbyte (by decide)).mpr hsame)
    have htrue : byte ≠ 116 := fun hsame => htrue ((hbyte (by decide)).mpr hsame)
    have hfalse : byte ≠ 102 := fun hsame => hfalse ((hbyte (by decide)).mpr hsame)
    have hminus : byte ≠ 45 := fun hsame => hminus ((hbyte (by decide)).mpr hsame)
    have hquote : byte ≠ 34 := fun hsame => hquote ((hbyte (by decide)).mpr hsame)
  · rw [leaves_skipNumber_iff]
    simp [hnull, htrue, hfalse, hminus, hquote, hdigit]
  · refine iff_of_false not_leaves_error ?_
    simp [hnull, htrue, hfalse, hminus, hquote, hdigit]

/-! ### Names -/

/-- A text goes on with a colon, behind blanks. -/
def PassesColon (text rest : List UInt8) : Prop := afterBlanks text = 58 :: rest

/-- A text begins with a name that is not looked at, and a colon. -/
def PassesName (text rest : List UInt8) : Prop :=
  ∃ next middle, afterBlanks text = 34 :: next ∧ PassesBytes next middle ∧ PassesColon middle rest

theorem leaves_readColon_iff :
    Leaves (readColon cursor) taken rest ↔ PassesColon cursor.rest rest := by
  rw [PassesColon, ← rest_skipBlanks]
  exact leaves_mark_iff not_leaves_error not_leaves_error

theorem leaves_skipName_iff :
    Leaves (skipName cursor) taken rest ↔ PassesName cursor.rest rest := by
  rw [PassesName, ← rest_skipBlanks]
  have hquote : ∀ behind, cursor.skipBlanks.rest = 34 :: behind →
      (Leaves (skipStringRest cursor.skipBlanks.advance >>= fun read => readColon read.2)
        taken rest ↔ ∃ middle, PassesBytes behind middle ∧ PassesColon middle rest) := by
    intro behind hbehind
    obtain rfl := rest_advance_of_cons hbehind
    rw [leaves_bind_iff (Q := fun _ middle => PassesColon middle rest)
      (fun _ _ => leaves_skipStringRest_iff) fun _ _ _ _ => leaves_readColon_iff]
    exact exists_const _
  refine (leaves_behind_iff not_leaves_error hquote not_leaves_error).trans ?_
  constructor
  · rintro ⟨behind, htext, middle, hbytes⟩
    exact ⟨behind, middle, htext, hbytes⟩
  · rintro ⟨behind, middle, htext, hbytes⟩
    exact ⟨behind, htext, middle, hbytes⟩

/-! ### Lists and objects -/

/-- What a text goes on with: a value, or the further items of an open list or object, which are
the first ones or not. -/
inductive Construct where
  | value
  | items (isObject isFirst : Bool)

/-- The byte that opens a list or an object. -/
def openingByte (isObject : Bool) : UInt8 := if isObject then 123 else 91

/-- The byte that closes a list or an object. -/
def closingByte (isObject : Bool) : UInt8 := if isObject then 125 else 93

/-- A text goes on with an item: at once with the first one, and behind a comma else. -/
def PassesComma (isFirst : Bool) (text rest : List UInt8) : Prop :=
  if isFirst then text = rest else afterBlanks text = 44 :: rest

/-- A text passes what stands in front of the value of an item: the name of a member. -/
def PassesLead (isObject : Bool) (text rest : List UInt8) : Prop :=
  if isObject then PassesName text rest else text = rest

/-- A text begins with a value, or goes on with items and the end of their list or object. -/
inductive Passes : Construct → List UInt8 → List UInt8 → Prop
  | scalar {text rest : List UInt8} (hscalar : PassesScalar (afterBlanks text) rest) :
      Passes .value text rest
  | nested {isObject : Bool} {text inner rest : List UInt8}
      (hopens : afterBlanks text = openingByte isObject :: inner)
      (hitems : Passes (.items isObject true) inner rest) : Passes .value text rest
  | close {isObject isFirst : Bool} {text rest : List UInt8}
      (hcloses : afterBlanks text = closingByte isObject :: rest) :
      Passes (.items isObject isFirst) text rest
  | item {isObject isFirst : Bool} {text first second third rest : List UInt8}
      (hcomma : PassesComma isFirst text first) (hlead : PassesLead isObject first second)
      (hvalue : Passes .value second third) (hitems : Passes (.items isObject false) third rest) :
      Passes (.items isObject isFirst) text rest

/-- A text goes on with what closes all of the open lists and objects, the innermost first. -/
def Closes : List Bool → List UInt8 → List UInt8 → Prop
  | [], text, rest => text = rest
  | isObject :: frames, text, rest =>
    ∃ middle, Passes (.items isObject false) text middle ∧ Closes frames middle rest

theorem passes_value_iff :
    Passes .value text rest ↔ PassesScalar (afterBlanks text) rest ∨
      ∃ isObject inner, afterBlanks text = openingByte isObject :: inner ∧
        Passes (.items isObject true) inner rest := by
  constructor
  · intro hpasses
    cases hpasses with
    | scalar hscalar => exact Or.inl hscalar
    | nested hopens hitems => exact Or.inr ⟨_, _, hopens, hitems⟩
  · rintro (hscalar | ⟨isObject, inner, hopens, hitems⟩)
    · exact .scalar hscalar
    · exact .nested hopens hitems

theorem not_passesScalar_nil : ¬ PassesScalar [] rest :=
  fun hpasses => Nat.not_lt_zero _ hpasses.length_lt

/-- No value begins with a byte that opens or closes a list or an object, or with a comma. -/
theorem not_passesScalar_mark {byte : UInt8}
    (hbyte : byte ∈ ([44, 91, 93, 123, 125] : List UInt8)) :
    ¬ PassesScalar (byte :: text) rest := by
  rw [passesScalar_cons_iff]
  simp only [List.mem_cons, List.not_mem_nil, or_false] at hbyte
  rcases hbyte with rfl | rfl | rfl | rfl | rfl <;> simp [isDigitByte]

theorem openingByte_mem (isObject : Bool) :
    openingByte isObject ∈ ([44, 91, 93, 123, 125] : List UInt8) := by
  cases isObject <;> decide

theorem passes_value_opening_iff (isObject : Bool) {inner : List UInt8}
    (hopens : afterBlanks text = openingByte isObject :: inner) :
    Passes .value text rest ↔ Passes (.items isObject true) inner rest := by
  rw [passes_value_iff, hopens]
  constructor
  · rintro (hscalar | ⟨other, inside, hother, hitems⟩)
    · exact absurd hscalar (not_passesScalar_mark (openingByte_mem isObject))
    · obtain ⟨hsame, rfl⟩ := List.cons.inj hother
      obtain rfl : isObject = other := by
        revert hsame
        cases isObject <;> cases other <;> decide
      exact hitems
  · intro hitems
    exact Or.inr ⟨isObject, inner, rfl, hitems⟩

/-- Without an opening byte a value is no list or object. -/
theorem passes_value_scalar_iff
    (hopens : ∀ isObject inner, afterBlanks text ≠ openingByte isObject :: inner) :
    Passes .value text rest ↔ PassesScalar (afterBlanks text) rest := by
  rw [passes_value_iff]
  constructor
  · rintro (hscalar | ⟨isObject, inner, hother, -⟩)
    · exact hscalar
    · exact absurd hother (hopens isObject inner)
  · exact Or.inl

theorem PassesName.length_lt (hpasses : PassesName text rest) : rest.length < text.length := by
  obtain ⟨next, middle, hquote, hbytes, hcolon⟩ := hpasses
  exact (length_of_afterBlanks hcolon).trans (hbytes.length_lt.trans (length_of_afterBlanks hquote))

theorem PassesComma.length_le {isFirst : Bool} (hpasses : PassesComma isFirst text rest) :
    rest.length ≤ text.length := by
  cases isFirst with
  | true =>
      obtain rfl : text = rest := hpasses
      exact Nat.le_refl _
  | false => exact (length_of_afterBlanks hpasses).le

theorem PassesLead.length_le {isObject : Bool} (hpasses : PassesLead isObject text rest) :
    rest.length ≤ text.length := by
  cases isObject with
  | true => exact (PassesName.length_lt hpasses).le
  | false =>
      obtain rfl : text = rest := hpasses
      exact Nat.le_refl _

theorem Passes.length_lt {construct : Construct} (hpasses : Passes construct text rest) :
    rest.length < text.length := by
  induction hpasses with
  | scalar hscalar => exact hscalar.length_lt.trans_le (length_afterBlanks_le _)
  | nested hopens _ ih => exact ih.trans (length_of_afterBlanks hopens)
  | close hcloses => exact length_of_afterBlanks hcloses
  | item hcomma hlead _ _ hvalue hitems =>
      exact (hitems.trans hvalue).trans_le (hlead.length_le.trans hcomma.length_le)

/-! ### The skipper -/

/-- A text that is at its end, or goes on with a closing byte or a comma, goes on with no
item. -/
theorem not_passes_item (isObject : Bool) {second third : List UInt8}
    (hhead : ∀ byte ∈ (afterBlanks text).head?, byte ∈ ([44, 93, 125] : List UInt8))
    (hlead : PassesLead isObject text second) : ¬ Passes .value second third := by
  cases isObject with
  | true =>
      obtain ⟨next, middle, hquote, -⟩ := hlead
      rw [hquote] at hhead
      exact absurd (hhead 34 rfl) (by decide)
  | false =>
      obtain rfl : text = second := hlead
      rw [passes_value_iff]
      rintro (hscalar | ⟨other, inner, hother, -⟩)
      · cases hrest : afterBlanks text with
        | nil =>
            rw [hrest] at hscalar
            exact not_passesScalar_nil hscalar
        | cons byte more =>
            rw [hrest] at hscalar hhead
            have hmark : byte ∈ ([44, 91, 93, 123, 125] : List UInt8) := by
              have hbyte := hhead byte rfl
              revert hbyte
              simp only [List.mem_cons, List.not_mem_nil, or_false]
              rintro (rfl | rfl | rfl) <;> decide
            exact not_passesScalar_mark hmark hscalar
      · rw [hother] at hhead
        exact absurd (hhead _ rfl) (by cases other <;> decide)

theorem not_passes_value_nil (htext : afterBlanks text = []) : ¬ Passes .value text rest := by
  rw [passes_value_iff, htext]
  rintro (hscalar | ⟨isObject, inner, hnil, -⟩)
  · exact not_passesScalar_nil hscalar
  · cases hnil

/-- Blanks in front of an item do not matter. -/
theorem passesLead_afterBlanks_iff {isObject : Bool} {byte : UInt8} {more : List UInt8}
    (htext : afterBlanks text = byte :: more) :
    (∃ second, PassesLead isObject (byte :: more) second ∧ Passes .value second rest) ↔
      ∃ second, PassesLead isObject text second ∧ Passes .value second rest := by
  cases isObject with
  | true => simp only [PassesLead, if_true, PassesName, afterBlanks_cons htext, htext]
  | false =>
      simp only [PassesLead, Bool.false_eq_true, if_false, exists_eq_left']
      rw [passes_value_iff, passes_value_iff, afterBlanks_cons htext, htext]

/-- The skipper passes a value, and then what closes the open lists and objects. -/
def SkipsNested (fuel : ℕ) : Prop :=
  ∀ ⦃frames : List Bool⦄ ⦃text rest : List UInt8⦄ ⦃place : Place⦄ ⦃taken : Unit⦄,
    2 * text.length ≤ fuel →
      (Leaves (skipNested fuel frames ⟨text, place⟩) taken rest ↔
        ∃ middle, Passes .value text middle ∧ Closes frames middle rest)

/-- The skipper passes the items of the innermost list or object, and then what closes those
around it. -/
def SkipsAfter (fuel : ℕ) : Prop :=
  ∀ ⦃isObject : Bool⦄ ⦃frames : List Bool⦄ (afterValue : Bool) ⦃text rest : List UInt8⦄
    ⦃place : Place⦄ ⦃taken : Unit⦄, 2 * text.length + 1 ≤ fuel →
      (Leaves (skipAfter fuel (isObject :: frames) afterValue ⟨text, place⟩) taken rest ↔
        ∃ middle, Passes (.items isObject !afterValue) text middle ∧ Closes frames middle rest)

variable {fuel : ℕ} {isObject : Bool} {frames : List Bool}

/-- An item is skipped as far as its list or object, and those around it, are closed. -/
theorem SkipsNested.leaves_item_iff (hnested : SkipsNested fuel)
    (hfuel : 2 * text.length ≤ fuel) :
    Leaves (if isObject then skipName ⟨text, place⟩ >>= fun named =>
        skipNested fuel (isObject :: frames) named.2
      else skipNested fuel (isObject :: frames) ⟨text, place⟩) taken rest ↔
      ∃ third, (∃ second, PassesLead isObject text second ∧ Passes .value second third) ∧
        Closes (isObject :: frames) third rest := by
  cases isObject with
  | true =>
      simp only [if_true, PassesLead]
      rw [leaves_bind_iff (Q := fun _ second =>
          ∃ third, Passes .value second third ∧ Closes (true :: frames) third rest)
        (fun _ _ => leaves_skipName_iff) fun _ second place hname =>
          hnested (by have := hname.length_lt; dsimp only at this; omega)]
      constructor
      · rintro ⟨-, second, hname, third, hvalue, hcloses⟩
        exact ⟨third, ⟨second, hname, hvalue⟩, hcloses⟩
      · rintro ⟨third, ⟨second, hname, hvalue⟩, hcloses⟩
        exact ⟨(), second, hname, third, hvalue, hcloses⟩
  | false =>
      simp only [Bool.false_eq_true, if_false, PassesLead, exists_eq_left']
      exact hnested hfuel

/-- Behind a value the open lists and objects are closed. -/
theorem SkipsAfter.leaves_closes_iff (hafter : SkipsAfter fuel)
    (hfuel : 2 * text.length + 1 ≤ fuel) :
    Leaves (skipAfter fuel frames true ⟨text, place⟩) taken rest ↔ Closes frames text rest := by
  cases frames with
  | nil =>
      obtain ⟨fuel, rfl⟩ := Nat.exists_eq_add_of_le' (Nat.le_of_add_left_le hfuel)
      have hread : skipAfter (fuel + 1) [] true ⟨text, place⟩ = .ok ((), ⟨text, place⟩) := rfl
      rw [hread, leaves_ok_iff]
      exact ⟨fun hleft => hleft.2, fun htext => ⟨rfl, htext⟩⟩
  | cons isObject frames => exact hafter true hfuel

theorem skipsNested_zero : SkipsNested 0 := by
  intro frames text rest place taken hfuel
  obtain rfl : text = [] := List.length_eq_zero_iff.mp (by omega)
  refine iff_of_false not_leaves_error ?_
  rintro ⟨middle, hvalue, -⟩
  exact not_passes_value_nil rfl hvalue

theorem SkipsAfter.skipsNested_succ (hafter : SkipsAfter fuel) : SkipsNested (fuel + 1) := by
  intro frames text rest place taken hfuel
  have hread : skipNested (fuel + 1) frames ⟨text, place⟩ =
      beginValue ⟨text, place⟩ fun cursor c =>
        if c = '[' then skipAfter fuel (false :: frames) false cursor.advance
        else if c = '\x7b' then skipAfter fuel (true :: frames) false cursor.advance
        else skipScalar cursor c >>= fun skipped => skipAfter fuel frames true skipped.2 := rfl
  have hbyte : ∀ {byte c}, c.toNat < 128 → (byteChar byte = c ↔ byte = UInt8.ofNat c.toNat) :=
    byteChar_eq_iff
  rw [hread, leaves_beginValue_iff (P := fun _ _ =>
    ∃ middle, Passes .value text middle ∧ Closes frames middle rest)]
  · constructor
    · rintro ⟨-, -, -, hvalue⟩
      exact hvalue
    · rintro ⟨middle, hvalue, hcloses⟩
      cases hrest : afterBlanks text with
      | nil => exact absurd hvalue (not_passes_value_nil hrest)
      | cons byte more => exact ⟨byte, more, rfl, middle, hvalue, hcloses⟩
  · intro byte more place htext
    have hlength := length_of_afterBlanks htext
    split_ifs with hlist hobject
    · obtain rfl := (hbyte (by decide)).mp hlist
      refine (hafter false (by omega)).trans ?_
      simp only [passes_value_opening_iff false htext]
      rfl
    · obtain rfl := (hbyte (by decide)).mp hobject
      refine (hafter false (by omega)).trans ?_
      simp only [passes_value_opening_iff true htext]
      rfl
    · have hopens : ∀ isObject inner, afterBlanks text ≠ openingByte isObject :: inner := by
        intro isObject inner hopens
        obtain rfl := (List.cons.inj (htext.symm.trans hopens)).1
        cases isObject
        · exact hlist rfl
        · exact hobject rfl
      simp only [passes_value_scalar_iff hopens, htext]
      rw [leaves_bind_iff (Q := fun _ middle => Closes frames middle rest)
        (fun _ _ => leaves_skipScalar_iff) fun _ middle between hscalar =>
          hafter.leaves_closes_iff (by
            have hless := hscalar.length_lt
            rw [List.length_cons] at hless
            omega)]
      exact ⟨fun ⟨_, hmiddle⟩ => hmiddle, fun hmiddle => ⟨(), hmiddle⟩⟩

/-- The items of a list or object end at once, or go on with one of them. -/
theorem exists_passes_items_iff {isFirst : Bool} :
    (∃ middle, Passes (.items isObject isFirst) text middle ∧ Closes frames middle rest) ↔
      (∃ middle, afterBlanks text = closingByte isObject :: middle ∧ Closes frames middle rest) ∨
      ∃ first, PassesComma isFirst text first ∧
        ∃ third, (∃ second, PassesLead isObject first second ∧ Passes .value second third) ∧
          Closes (isObject :: frames) third rest := by
  constructor
  · rintro ⟨middle, hpasses, hrest⟩
    cases hpasses with
    | close hcloses => exact Or.inl ⟨middle, hcloses, hrest⟩
    | item hcomma hlead hvalue hitems =>
        exact Or.inr ⟨_, hcomma, _, ⟨_, hlead, hvalue⟩, middle, hitems, hrest⟩
  · rintro (⟨middle, hcloses, hrest⟩ | ⟨first, hcomma, third, ⟨second, hlead, hvalue⟩, middle,
      hitems, hrest⟩)
    · exact ⟨middle, .close hcloses, hrest⟩
    · exact ⟨middle, .item hcomma hlead hvalue hitems, hrest⟩

theorem skipsAfter_succ (hnested : SkipsNested fuel) (hafter : SkipsAfter fuel) :
    SkipsAfter (fuel + 1) := by
  intro isObject frames afterValue text rest place taken hfuel
  have hread : skipAfter (fuel + 1) (isObject :: frames) afterValue ⟨text, place⟩ =
      let cursor := Cursor.skipBlanks ⟨text, place⟩
      let item (cursor : Cursor) : Except Failure (Unit × Cursor) :=
        if isObject then
          skipName cursor >>= fun named => skipNested fuel (isObject :: frames) named.2
        else skipNested fuel (isObject :: frames) cursor
      if cursor.rest.isEmpty then
        cursor.failNext (if isObject then .endInObject else .endInList)
      else if afterValue && cursor.startsWith ',' then item cursor.advance
      else if cursor.startsWith (if isObject then '\x7d' else ']') then
        skipAfter fuel frames true cursor.advance
      else if afterValue then
        cursor.failNext (if isObject then .expectedObjectEnd else .expectedListEnd)
      else item cursor := rfl
  have hclosing : UInt8.ofNat (if isObject then '\x7d' else ']').toNat = closingByte isObject := by
    cases isObject <;> rfl
  have hblanks := rest_skipBlanks ⟨text, place⟩
  rw [hread, exists_passes_items_iff]
  generalize Cursor.skipBlanks ⟨text, place⟩ = behind at hblanks ⊢
  obtain ⟨left, place⟩ := behind
  dsimp only at hblanks ⊢
  cases left with
  | nil =>
      refine iff_of_false not_leaves_error ?_
      rintro (⟨middle, hcloses, -⟩ | ⟨first, hcomma, third, ⟨second, hlead, hvalue⟩, -⟩)
      · cases hblanks.trans hcloses
      · cases afterValue with
        | true => cases hblanks.trans hcomma
        | false =>
            obtain rfl : text = first := hcomma
            refine not_passes_item isObject ?_ hlead hvalue
            rw [← hblanks]
            exact fun byte hbyte => nomatch hbyte
  | cons byte more =>
      have hlength := length_of_afterBlanks hblanks.symm
      have hends : (∃ middle, afterBlanks text = closingByte isObject :: middle ∧
          Closes frames middle rest) ↔ byte = closingByte isObject ∧ Closes frames more rest := by
        rw [← hblanks]
        constructor
        · rintro ⟨middle, hcloses, hrest⟩
          obtain ⟨rfl, rfl⟩ := List.cons.inj hcloses
          exact ⟨rfl, hrest⟩
        · rintro ⟨rfl, hrest⟩
          exact ⟨more, rfl, hrest⟩
      have hcloser : Cursor.startsWith ⟨byte :: more, place⟩ (if isObject then '\x7d' else ']') =
          true ↔ byte = closingByte isObject := by
        rw [startsWith_iff, hclosing]
        exact Option.some_inj
      have hadvance : Cursor.advance ⟨byte :: more, place⟩ =
          ⟨more, Cursor.placeAfter place byte⟩ := rfl
      rw [hends]
      dsimp only [List.isEmpty_cons]
      rw [if_neg Bool.false_ne_true, hadvance]
      cases afterValue with
      | true =>
          have hcomma : Cursor.startsWith ⟨byte :: more, place⟩ ',' = true ↔ byte = 44 :=
            startsWith_iff.trans Option.some_inj
          have hnext : ∀ first, PassesComma (!true) text first ↔ byte = 44 ∧ more = first := by
            intro first
            rw [PassesComma, if_neg (by decide), ← hblanks, List.cons.injEq]
          simp only [hnext, Bool.true_and, if_true]
          by_cases hbyte : byte = 44
          · have hother : byte ≠ closingByte isObject := by
              rw [hbyte]
              cases isObject <;> decide
            rw [if_pos (hcomma.mpr hbyte), hnested.leaves_item_iff (by omega)]
            constructor
            · intro hitem
              exact Or.inr ⟨more, ⟨hbyte, rfl⟩, hitem⟩
            · rintro (⟨hclosing, -⟩ | ⟨first, ⟨-, rfl⟩, hitem⟩)
              · exact absurd hclosing hother
              · exact hitem
          · rw [if_neg fun hstarts => hbyte (hcomma.mp hstarts)]
            by_cases hcloses : byte = closingByte isObject
            · rw [if_pos (hcloser.mpr hcloses), hafter.leaves_closes_iff (by omega)]
              constructor
              · intro hrest
                exact Or.inl ⟨hcloses, hrest⟩
              · rintro (⟨-, hrest⟩ | ⟨first, ⟨hsame, -⟩, -⟩)
                · exact hrest
                · exact absurd hsame hbyte
            · rw [if_neg fun hstarts => hcloses (hcloser.mp hstarts)]
              refine iff_of_false not_leaves_error ?_
              rintro (⟨hsame, -⟩ | ⟨first, ⟨hsame, -⟩, -⟩)
              · exact hcloses hsame
              · exact hbyte hsame
      | false =>
          have hnext : ∀ first, PassesComma (!false) text first ↔ text = first := fun _ => Iff.rfl
          simp only [hnext, exists_eq_left', Bool.false_and, Bool.false_eq_true, if_false]
          by_cases hcloses : byte = closingByte isObject
          · rw [if_pos (hcloser.mpr hcloses), hafter.leaves_closes_iff (by omega)]
            constructor
            · intro hrest
              exact Or.inl ⟨hcloses, hrest⟩
            · rintro (⟨-, hrest⟩ | ⟨third, ⟨second, hlead, hvalue⟩, -⟩)
              · exact hrest
              · refine absurd hvalue (not_passes_item isObject ?_ hlead)
                rw [← hblanks]
                rintro _ ⟨⟩
                rw [hcloses]
                cases isObject <;> decide
          · rw [if_neg fun hstarts => hcloses (hcloser.mp hstarts),
              hnested.leaves_item_iff (by rw [List.length_cons]; omega)]
            simp only [passesLead_afterBlanks_iff hblanks.symm]
            constructor
            · exact Or.inr
            · rintro (⟨hsame, -⟩ | hitem)
              · exact absurd hsame hcloses
              · exact hitem

theorem skips (fuel : ℕ) : SkipsNested fuel ∧ SkipsAfter fuel := by
  induction fuel with
  | zero => exact ⟨skipsNested_zero, fun _ _ _ _ _ _ _ hfuel => nomatch hfuel⟩
  | succ fuel ih => exact ⟨ih.2.skipsNested_succ, skipsAfter_succ ih.1 ih.2⟩

/-- Exactly the values that the grammar derives are skipped. -/
theorem leaves_skipValue_iff :
    Leaves (skipValue ⟨text, place⟩) taken rest ↔ Passes .value text rest := by
  rw [skipValue, (skips _).1 (Nat.le_add_right _ _)]
  exact exists_eq_right

end MarkedRoutes.Json
