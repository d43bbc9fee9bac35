import MarkedRoutes.Http.Request
import MarkedRoutes.Proofs.Text.PercentEncoding
import Mathlib.Data.List.TakeDrop
import Mathlib.Data.List.TakeWhile

/-!
# Form-encoding a query

Named values are written as a query with an equals sign behind each name and an
ampersand between them.  Names and values are percent-encoded, with a plus for a
space, so that neither separator occurs in them.  Reading the query gives the
named values back, and reading a target gives its path and its query back.
-/

namespace MarkedRoutes.Http

open MarkedRoutes.Text

/-- The signs that stand for themselves in a query. -/
def formSigns : List Char := ['*', '-', '.', '_']

/-- The characters that a byte of a name or value is written as. -/
def formEncodeByte (byte : UInt8) : List Char :=
  if byte = 32 then ['+'] else encodeByte formSigns byte

/-- The characters that a name or value is written as. -/
def formEncode (text : String) : List Char := (bytesOf text).flatMap formEncodeByte

/-- A named value as it is written. -/
def formPair (pair : String × String) : List Char :=
  formEncode pair.1 ++ '=' :: formEncode pair.2

/-- Named values as they are written in a query. -/
def formQuery (pairs : List (String × String)) : List Char := join ['&'] (pairs.map formPair)

/-! ### Names and values -/

theorem arePlain_formSigns : ArePlain formSigns := by decide

theorem map_plusToSpace_formEncodeByte (byte : UInt8) :
    (formEncodeByte byte).map plusToSpace =
      if byte = 32 then [' '] else encodeByte formSigns byte := by
  rw [formEncodeByte]
  split
  · rfl
  · have hplus : '+' ∉ encodeByte formSigns byte :=
      notMem_encodeByte (by decide) (by decide) byte
    have hsame : ∀ c ∈ encodeByte formSigns byte, plusToSpace c = c := by
      intro c hmem
      apply if_neg
      rintro rfl
      exact hplus hmem
    exact (List.map_congr_left hsame).trans (List.map_id _)

theorem decodeComponent_formEncode (text : String) : decodeComponent (formEncode text) = text := by
  have hwritten : (formEncode text).map plusToSpace =
      (bytesOf text).flatMap fun byte =>
        if byte = 32 then [' '] else encodeByte formSigns byte := by
    rw [formEncode, List.map_flatMap]
    congr 1
    funext byte
    exact map_plusToSpace_formEncodeByte byte
  have hread : ∀ (byte : UInt8) (rest : List UInt8),
      percentDecode (utf8 (if byte = 32 then [' '] else encodeByte formSigns byte) ++ rest) =
        byte :: percentDecode rest := by
    intro byte rest
    split
    · next hspace =>
      subst hspace
      exact percentDecode_cons_of_ne (by decide) rest
    · exact percentDecode_encodeByte arePlain_formSigns byte rest
  rw [decodeComponent, hwritten, percentDecode_flatMap hread, ofUtf8Lossy_bytesOf]

theorem notMem_formEncode {c : Char} (hplain : isPlain formSigns c = false)
    (hpercent : c ≠ '%') (hplus : c ≠ '+') (text : String) : c ∉ formEncode text := by
  intro hmem
  obtain ⟨byte, -, hbyte⟩ := List.mem_flatMap.mp hmem
  rw [formEncodeByte] at hbyte
  split at hbyte
  · exact hplus (List.mem_singleton.mp hbyte)
  · exact notMem_encodeByte hplain hpercent byte hbyte

/-! ### Separators -/

/-- What stands before a separator that occurs only behind it is split off. -/
theorem span_append_cons {separator : Char} {text : List Char} (htext : separator ∉ text)
    (rest : List Char) :
    (text ++ separator :: rest).span (· != separator) = (text, separator :: rest) := by
  have hall : ∀ c ∈ text, (c != separator) = true := fun c hmem =>
    bne_iff_ne.mpr fun heq => htext (heq ▸ hmem)
  rw [List.span_eq_takeWhile_dropWhile, List.takeWhile_append_of_pos hall,
    List.dropWhile_append_of_pos hall]
  simp

theorem span_of_notMem {separator : Char} {text : List Char} (htext : separator ∉ text) :
    text.span (· != separator) = (text, []) := by
  have hall : ∀ c ∈ text, (c != separator) = true := fun c hmem =>
    bne_iff_ne.mpr fun heq => htext (heq ▸ hmem)
  rw [List.span_eq_takeWhile_dropWhile, List.takeWhile_eq_self_iff.mpr hall,
    List.dropWhile_eq_nil_iff.mpr hall]

/-! ### Queries -/

theorem queryPair_formPair (pair : String × String) : queryPair (formPair pair) = pair := by
  have hname : '=' ∉ formEncode pair.1 :=
    notMem_formEncode (by decide) (by decide) (by decide) pair.1
  rw [queryPair, formPair, span_append_cons hname]
  simp [decodeComponent_formEncode]

/-- A query that was written is read back. -/
theorem queryPairs_formQuery (pairs : List (String × String)) :
    queryPairs (formQuery pairs) = pairs := by
  cases pairs with
  | nil => rfl
  | cons first pairs =>
      have hampersand : ∀ text, '&' ∉ formEncode text :=
        notMem_formEncode (by decide) (by decide) (by decide)
      have hpieces : ∀ piece ∈ (first :: pairs).map formPair, '&' ∉ piece := by
        intro piece hmem
        obtain ⟨pair, -, rfl⟩ := List.mem_map.mp hmem
        simp [formPair, hampersand]
      have hall : ∀ piece ∈ (first :: pairs).map formPair, (!piece.isEmpty) = true := by
        intro piece hmem
        obtain ⟨pair, -, rfl⟩ := List.mem_map.mp hmem
        simp [formPair]
      have hne : (first :: pairs).map formPair ≠ [] := List.cons_ne_nil _ _
      rw [queryPairs, formQuery, splitOnChar_join hne hpieces, List.filter_eq_self.mpr hall,
        List.map_map]
      exact (List.map_congr_left fun pair _ => queryPair_formPair pair).trans (List.map_id _)

/-! ### Targets -/

/-- A target is split at its first question mark. -/
theorem ofTarget_append_query (id : RequestId) (method : RequestMethod) {path : String}
    (hpath : '?' ∉ path.toList) (pairs : List (String × String)) :
    (Request.ofTarget id method (path ++ "?" ++ String.ofList (formQuery pairs))).path = path ∧
      (Request.ofTarget id method
        (path ++ "?" ++ String.ofList (formQuery pairs))).queryParameters = pairs := by
  have htarget : (path ++ "?" ++ String.ofList (formQuery pairs)).toList =
      path.toList ++ '?' :: formQuery pairs := by
    simp
  rw [Request.ofTarget, htarget, span_append_cons hpath]
  exact ⟨String.ofList_toList, queryPairs_formQuery pairs⟩

theorem path_ofTarget (id : RequestId) (method : RequestMethod) {path : String}
    (hpath : '?' ∉ path.toList) : (Request.ofTarget id method path).path = path := by
  rw [Request.ofTarget, span_of_notMem hpath]
  exact String.ofList_toList

end MarkedRoutes.Http
