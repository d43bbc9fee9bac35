import MarkedRoutes.Json.Decoding
import MarkedRoutes.Proofs.Results
import MarkedRoutes.Proofs.Text.Utf8

/-!
# Strings are shorter than their texts

A JSON text that stands for a string has more bytes than the string: each escape takes at least
as many bytes as the character that it stands for, and there are two quotes besides.  So no text
stands for the string of its own characters.
-/

namespace MarkedRoutes.Json

/-! ### What readers leave -/

@[simp]
theorem Cursor.rest_advance (cursor : Cursor) : cursor.advance.rest = cursor.rest.tail := by
  rw [advance]
  cases hrest : cursor.rest <;> simp [hrest]

@[simp]
theorem Cursor.rest_advanceBy (cursor : Cursor) (count : ℕ) :
    (cursor.advanceBy count).rest = cursor.rest.drop count := by
  induction count generalizing cursor with
  | zero => rfl
  | succ count ih => rw [advanceBy, ih, rest_advance, List.drop_tail]

theorem Cursor.length_of_peek? {cursor : Cursor} {byte : UInt8}
    (hpeek : cursor.peek? = some byte) :
    cursor.advance.rest.length + 1 = cursor.rest.length := by
  obtain ⟨rest, hrest⟩ := List.head?_eq_some_iff.mp hpeek
  simp [hrest]

theorem Cursor.length_skipBlanks_le (cursor : Cursor) :
    cursor.skipBlanks.rest.length ≤ cursor.rest.length := by
  rw [skipBlanks]
  generalize cursor.place = place
  induction cursor.rest generalizing place with
  | nil => exact Nat.le_refl _
  | cons byte rest ih =>
      rw [skipBlanksOf]
      split
      · exact (ih _).trans (Nat.le_succ _)
      · exact Nat.le_refl _

/-! ### Escapes -/

theorem length_readHex {cursor after : Cursor} {number : ℕ}
    (hread : readHex cursor = .ok (number, after)) :
    after.rest.length + 4 = cursor.rest.length := by
  rw [readHex] at hread
  split at hread
  · next a b c d rest hrest =>
      split at hread
      · cases hread
        simp [hrest]
      · cases hread
  · cases hread

theorem length_readPairMark {cursor after : Cursor} {mark : Char}
    (hread : readPairMark mark cursor = .ok ((), after)) :
    after.rest.length ≤ cursor.rest.length := by
  rw [readPairMark] at hread
  split at hread
  · cases hread
  · split at hread
    · cases hread
      simp
    · cases hread

/-- A code point takes four digits, and a pair of surrogates more. -/
theorem length_readCodePoint {cursor after : Cursor} {c : Char}
    (hread : readCodePoint cursor = .ok (c, after)) :
    after.rest.length + 4 ≤ cursor.rest.length := by
  obtain ⟨⟨first, behind⟩, hfirst, hread⟩ := bind_eq_ok_iff.mp hread
  have hlength := length_readHex hfirst
  simp only at hread
  split at hread
  · cases hread
  · split at hread
    · cases hread
      exact hlength.le
    · obtain ⟨⟨⟨⟩, second⟩, hsecond, hread⟩ := bind_eq_ok_iff.mp hread
      obtain ⟨⟨⟨⟩, third⟩, hthird, hread⟩ := bind_eq_ok_iff.mp hread
      obtain ⟨⟨number, last⟩, hlast, hread⟩ := bind_eq_ok_iff.mp hread
      have hafter : last = after := by
        simp only at hread
        split at hread
        · cases hread
        · simp only [Except.ok.injEq, Prod.mk.injEq] at hread
          exact hread.2
      have hmark := length_readPairMark hsecond
      have hletter := length_readPairMark hthird
      have hdigits := length_readHex hlast
      simp only [hafter] at hletter hdigits
      omega

theorem length_utf8EncodeChar_le_four (c : Char) : (String.utf8EncodeChar c).length ≤ 4 := by
  rw [String.length_utf8EncodeChar]
  exact c.utf8Size_le_four

theorem length_utf8EncodeChar_shortEscape {c escaped : Char}
    (hescape : shortEscape? c = some escaped) : (String.utf8EncodeChar escaped).length = 1 := by
  rw [shortEscape?] at hescape
  split_ifs at hescape with hc
  · cases hescape
    simp only [Bool.or_eq_true, beq_iff_eq] at hc
    rcases hc with (rfl | rfl) | rfl <;> rfl
  all_goals cases hescape
  all_goals rfl

/-- An escape takes at least as many bytes behind its backslash as its character has. -/
theorem length_readEscape {cursor after : Cursor} {c : Char}
    (hread : readEscape cursor = .ok (c, after)) :
    (String.utf8EncodeChar c).length + after.rest.length ≤ cursor.rest.length := by
  rw [readEscape] at hread
  split at hread
  · cases hread
  · next byte hbyte =>
      have hbehind := Cursor.length_of_peek? hbyte
      split at hread
      · have hdigits := length_readCodePoint hread
        have hsize := length_utf8EncodeChar_le_four c
        omega
      · split at hread
        · next escaped hescape =>
            cases hread
            have hsize := length_utf8EncodeChar_shortEscape hescape
            omega
        · cases hread

/-! ### Strings -/

/-- The bytes of a string and what is left behind its closing quote are fewer than before. -/
theorem length_readStringBytes {fuel : ℕ} {cursor after : Cursor} {bytes : List UInt8}
    (hread : readStringBytes fuel cursor = .ok (bytes, after)) :
    bytes.length + after.rest.length < cursor.rest.length := by
  induction fuel generalizing cursor bytes with
  | zero => cases hread
  | succ fuel ih =>
      rw [readStringBytes] at hread
      split at hread
      · cases hread
      · next byte hbyte =>
          have hbehind := Cursor.length_of_peek? hbyte
          split at hread
          · cases hread
            simp only [List.length_nil]
            omega
          · split at hread
            · obtain ⟨⟨c, behind⟩, hescape, hread⟩ := bind_eq_ok_iff.mp hread
              obtain ⟨⟨others, last⟩, hothers, hread⟩ := bind_eq_ok_iff.mp hread
              cases hread
              have := length_readEscape hescape
              have := ih hothers
              rw [List.length_append]
              omega
            · split at hread
              · cases hread
              · obtain ⟨⟨others, last⟩, hothers, hread⟩ := bind_eq_ok_iff.mp hread
                cases hread
                have := ih hothers
                rw [List.length_cons]
                omega

theorem length_readStringRest {cursor after : Cursor} {text : String}
    (hread : readStringRest cursor = .ok (text, after)) :
    (Text.bytesOf text).length + after.rest.length < cursor.rest.length := by
  obtain ⟨⟨bytes, behind⟩, hbytes, hread⟩ := bind_eq_ok_iff.mp hread
  simp only at hread
  split at hread
  · next found hfound =>
      cases hread
      rw [Text.ofUtf8?_eq_some_iff.mp hfound]
      exact length_readStringBytes hbytes
  · cases hread

/-- A value that is a string stands between quotes. -/
theorem length_of_readValue_string {nested : Option (Cursor → Except Failure (Json × Cursor))}
    {cursor after : Cursor} {text : String}
    (hread : readValue nested cursor = .ok (.string text, after)) :
    (Text.bytesOf text).length + 1 < cursor.rest.length := by
  have hblanks := Cursor.length_skipBlanks_le cursor
  rw [readValue, beginValue] at hread
  simp only at hread
  split at hread
  · cases hread
  · next byte hbyte =>
      have hbehind := Cursor.length_of_peek? hbyte
      by_cases hquote : byteChar byte = '"'
      · simp only [hquote, Char.reduceEq, if_false, if_true, map_eq_ok_iff] at hread
        obtain ⟨⟨found, last⟩, hfound, heq⟩ := hread
        cases heq
        have hlength : (Text.bytesOf found).length + last.rest.length <
            cursor.skipBlanks.advance.rest.length := length_readStringRest hfound
        simp only
        omega
      · grind [map_eq_ok_iff, Cursor.failNext, ofMembers]

/-- No text stands for the string of its own characters. -/
theorem ofText_ne_string (text : String) : ofText text ≠ .ok (.string text) := by
  intro htext
  rw [ofText, decode] at htext
  split at htext
  · cases htext
  · next value after hread =>
      have hvalue : value = .string text := by
        simp only at htext
        split at htext
        · exact Except.ok.inj htext
        · cases htext
      rw [hvalue] at hread
      have hlength : (Text.bytesOf text).length + 1 < (Text.bytesOf text).length :=
        length_of_readValue_string hread
      omega

/-- The empty text stands for no value. -/
theorem ofText_empty_ne (value : Json) : ofText "" ≠ .ok value := by
  intro htext
  cases htext

end MarkedRoutes.Json
