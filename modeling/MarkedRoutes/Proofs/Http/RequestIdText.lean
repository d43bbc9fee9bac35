import MarkedRoutes.Http.Request
import MarkedRoutes.Proofs.Text.Utf8
import Mathlib.Data.String.Basic

/-!
# The text of a request id

An id is written with a fixed number of digits, and reading its text gives the id back.  The
text has visible ASCII characters only, so a header can carry it, and a message whose first
header of that name does so has this id.
-/

namespace MarkedRoutes.Http

open MarkedRoutes.Text

/-! ### Digits -/

namespace RequestId

theorem numberOf_append_singleton (digits : List ℕ) (last : ℕ) :
    numberOf (digits ++ [last]) = numberOf digits * 32 + last := by
  rw [numberOf, List.foldl_append]
  rfl

/-- The last digits of a number stand for the number when there are enough of them. -/
theorem numberOf_lastDigits {count number : ℕ} (hnumber : number < Nat.pow 32 count) :
    numberOf (lastDigits count number) = number := by
  induction count generalizing number with
  | zero => exact (Nat.lt_one_iff.mp hnumber).symm
  | succ count ih =>
      have hquotient : number / 32 < Nat.pow 32 count := Nat.div_lt_of_lt_mul (by
        rw [Nat.mul_comm]
        exact hnumber)
      rw [lastDigits, numberOf_append_singleton, ih hquotient]
      exact Nat.div_add_mod' number 32

theorem length_lastDigits (count number : ℕ) : (lastDigits count number).length = count := by
  induction count generalizing number with
  | zero => rfl
  | succ count ih => rw [lastDigits, List.length_append, ih, List.length_singleton]

theorem lt_of_mem_lastDigits {count number value : ℕ} (hmem : value ∈ lastDigits count number) :
    value < 32 := by
  induction count generalizing number with
  | zero => cases hmem
  | succ count ih =>
      rcases List.mem_append.mp hmem with hmem | hmem
      · exact ih hmem
      · rw [List.mem_singleton.mp hmem]
        exact Nat.mod_lt number (by decide)

/-- The digit of a value has this value. -/
theorem digitOf?_digit {value : ℕ} (hvalue : value < 32) : digitOf? (digit value) = some value := by
  have hall : ∀ value < 32, digitOf? (digit value) = some value := by
    decide
  exact hall value hvalue

theorem digit_isVisible {value : ℕ} (hvalue : value < 32) :
    32 ≤ (digit value).toNat ∧ (digit value).toNat < 127 := by
  have hall : ∀ value < 32, 32 ≤ (digit value).toNat ∧ (digit value).toNat < 127 := by
    decide
  exact hall value hvalue

theorem mapM_digitOf?_map_digit {digits : List ℕ} (hdigits : ∀ value ∈ digits, value < 32) :
    (digits.map digit).mapM digitOf? = some digits := by
  induction digits with
  | nil => rfl
  | cons first digits ih =>
      obtain ⟨hfirst, hdigits⟩ := List.forall_mem_cons.mp hdigits
      rw [List.map_cons, List.mapM_cons, digitOf?_digit hfirst, ih hdigits]
      rfl

/-! ### Texts of ids -/

/-- Every character of the text of an id is visible. -/
theorem isVisible_of_mem_text {id : RequestId} {c : Char} (hmem : c ∈ id.text.toList) :
    32 ≤ c.toNat ∧ c.toNat < 127 := by
  rw [text, String.toList_ofList, List.mem_map] at hmem
  obtain ⟨value, hvalue, rfl⟩ := hmem
  exact digit_isVisible (lt_of_mem_lastDigits hvalue)

theorem utf8Len_of_ascii {chars : List Char} (hchars : ∀ c ∈ chars, c.toNat < 128) :
    String.utf8Len chars = chars.length := by
  induction chars with
  | nil => rfl
  | cons c chars ih =>
      obtain ⟨hc, hchars⟩ := List.forall_mem_cons.mp hchars
      have hsize : c.utf8Size = 1 := Char.utf8Size_eq_one_iff.mpr (Nat.le_of_lt_succ hc)
      rw [String.utf8Len_cons, ih hchars, hsize, List.length_cons]

theorem utf8ByteSize_text (id : RequestId) : id.text.utf8ByteSize = digitCount := by
  rw [← String.ofList_toList (s := id.text), String.utf8ByteSize_ofList,
    utf8Len_of_ascii fun c hmem => Nat.lt_succ_of_lt (isVisible_of_mem_text hmem).2,
    text, String.toList_ofList, List.length_map, length_lastDigits]

/-- Reading inverts writing. -/
theorem ofText_text (id : RequestId) : ofText id.text = .ok id := by
  have hsmall : id.value.val < Nat.pow 32 digitCount :=
    Nat.lt_trans id.value.isLt (by decide)
  have hread : id.text.toList.mapM digitOf? = some (lastDigits digitCount id.value.val) := by
    rw [text, String.toList_ofList]
    exact mapM_digitOf?_map_digit fun _ => lt_of_mem_lastDigits
  have hvalue : id.value.val % Nat.pow 2 128 = id.value.val := Nat.mod_eq_of_lt id.value.isLt
  rw [ofText, if_neg (not_not.mpr (utf8ByteSize_text id)), hread]
  simp only [numberOf_lastDigits hsmall, ofNat, hvalue]

end RequestId

/-! ### Headers with ids -/

theorem utf8_of_ascii {chars : List Char} (hchars : ∀ c ∈ chars, c.toNat < 128) :
    utf8 chars = chars.map fun c => UInt8.ofNat c.toNat := by
  induction chars with
  | nil => rfl
  | cons c chars ih =>
      obtain ⟨hc, hchars⟩ := List.forall_mem_cons.mp hchars
      rw [utf8_cons, utf8EncodeChar_one hc, ih hchars]
      rfl

/-- A header whose bytes are those of visible ASCII characters has these characters for its
text. -/
theorem Header.text?_bytesOf {header : Header} {text : String}
    (hvisible : ∀ c ∈ text.toList, 32 ≤ c.toNat ∧ c.toNat < 127)
    (hvalue : header.value = bytesOf text) : header.text? = some text := by
  have hbyte : ∀ c ∈ text.toList, (UInt8.ofNat c.toNat).toNat = c.toNat := fun c hmem =>
    Nat.mod_eq_of_lt (Nat.lt_trans (hvisible c hmem).2 (by decide))
  have hall : header.value.all isVisibleByte = true := by
    rw [hvalue, bytesOf, utf8_of_ascii fun c hmem => Nat.lt_succ_of_lt (hvisible c hmem).2,
      List.all_map, List.all_eq_true]
    intro c hmem
    obtain ⟨hlow, hhigh⟩ := hvisible c hmem
    rw [Function.comp_apply, isVisibleByte]
    simp only [UInt8.le_iff_toNat_le, UInt8.lt_iff_toNat_lt, hbyte c hmem, UInt8.reduceToNat,
      hlow, hhigh, decide_true, Bool.and_self, Bool.true_or]
  rw [text?, if_pos hall, hvalue, bytesOf,
    utf8_of_ascii fun c hmem => Nat.lt_succ_of_lt (hvisible c hmem).2, List.map_map]
  refine congrArg some (String.toList_inj.mp ?_)
  rw [String.toList_ofList]
  refine (List.map_congr_left fun c hmem => ?_).trans (List.map_id _)
  rw [Function.comp_apply, hbyte c hmem, Char.ofNat_toNat, id]

/-- A message whose first header of ids carries the text of an id has this id. -/
theorem Message.requestId_eq {message : Message} {header : Header} {id : RequestId}
    (hheader : (message.headers.find? fun header => header.hasName RequestId.headerName) =
      some header)
    (hvalue : header.value = bytesOf id.text) (minted : RequestId) :
    message.requestId minted = id := by
  rw [requestId, RequestId.ofHeaders?, headerText?, hheader, Option.bind_some,
    Header.text?_bytesOf (fun _ => RequestId.isVisible_of_mem_text) hvalue, Option.bind_some,
    RequestId.ofText_text]
  rfl

end MarkedRoutes.Http
