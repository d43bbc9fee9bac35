import MarkedRoutes.Template
import Mathlib.Data.List.Basic

/-!
# Texts of templates

A template is read from its text without loss: its parts are written as the text again, and the
parts of two texts with a slash between them are those of the one and then those of the other.
The lists of parts that can be read off what they are written as are exactly those that are read
from some text.
-/

namespace MarkedRoutes

open MarkedRoutes.Text

namespace Part

/-! ### One part -/

/-- A part that can be told from all others by its text: a literal that is not enclosed in
braces, an optional placeholder, or a required one whose name does not end in a question mark. -/
def IsPlain : Part → Prop
  | literal text => ∀ inner, text.toList ≠ '\x7b' :: (inner ++ ['\x7d'])
  | placeholder name isOptional => isOptional = true ∨ ¬ ['?'] <:+ name.toList

theorem braced?_eq_some_iff {written inner : List Char} :
    braced? written = some inner ↔ written = '\x7b' :: (inner ++ ['\x7d']) := by
  constructor
  · intro hbraced
    unfold braced? at hbraced
    split at hbraced
    · next rest =>
        rw [Option.ite_none_right_eq_some] at hbraced
        obtain ⟨hlast, hinner⟩ := hbraced
        rw [← Option.some.inj hinner, List.dropLast_append_getLast? _ hlast]
    · cases hbraced
  · rintro rfl
    rw [braced?, if_pos List.getLast?_concat, List.dropLast_concat]

theorem braced?_eq_none_iff {written : List Char} :
    braced? written = none ↔ ∀ inner, written ≠ '\x7b' :: (inner ++ ['\x7d']) := by
  simp only [Option.eq_none_iff_forall_ne_some, ne_eq, braced?_eq_some_iff]

/-- What stands between braces is the name of a placeholder, but for a question mark at its
end. -/
theorem ofText_braced (inner : List Char) :
    ofText ('\x7b' :: (inner ++ ['\x7d'])) =
      if inner.getLast? = some '?' then placeholder (String.ofList inner.dropLast) true
      else placeholder (String.ofList inner) false := by
  rw [ofText, braced?_eq_some_iff.mpr rfl]

/-- A text between slashes is written again as the part that it is. -/
theorem text_ofText (written : List Char) : (ofText written).text = written := by
  cases hbraced : braced? written with
  | none =>
      rw [ofText, hbraced]
      exact String.toList_ofList
  | some inner =>
      obtain rfl := braced?_eq_some_iff.mp hbraced
      rw [ofText_braced]
      split
      · next hmark =>
          obtain ⟨name, rfl⟩ := List.getLast?_eq_some_iff.mp hmark
          simp [text]
      · simp [text]

theorem isPlain_ofText (written : List Char) : (ofText written).IsPlain := by
  cases hbraced : braced? written with
  | none =>
      rw [ofText, hbraced, IsPlain, String.toList_ofList]
      exact braced?_eq_none_iff.mp hbraced
  | some inner =>
      obtain rfl := braced?_eq_some_iff.mp hbraced
      rw [ofText_braced]
      split
      · exact Or.inl rfl
      · next hmark =>
          refine Or.inr fun hsuffix => hmark ?_
          obtain ⟨name, hname⟩ := hsuffix
          rw [String.toList_ofList] at hname
          rw [← hname, List.getLast?_concat]

/-- A plain part is read off its text. -/
theorem ofText_text {part : Part} (hplain : part.IsPlain) : ofText part.text = part := by
  cases part with
  | literal text =>
      rw [Part.text, ofText, braced?_eq_none_iff.mpr hplain, String.ofList_toList]
  | placeholder name isOptional =>
      cases isOptional with
      | true =>
          have hwritten : (placeholder name true).text =
              '\x7b' :: ((name.toList ++ ['?']) ++ ['\x7d']) := by simp [text]
          rw [hwritten, ofText_braced, if_pos List.getLast?_concat, List.dropLast_concat,
            String.ofList_toList]
      | false =>
          have hmark : name.toList.getLast? ≠ some '?' := by
            intro hlast
            obtain ⟨front, hname⟩ := List.getLast?_eq_some_iff.mp hlast
            exact hplain.elim nofun fun hnone => hnone ⟨front, hname.symm⟩
          have hwritten : (placeholder name false).text =
              '\x7b' :: (name.toList ++ ['\x7d']) := rfl
          rw [hwritten, ofText_braced, if_neg hmark, String.ofList_toList]

end Part

/-! ### Lists of parts -/

namespace Template

theorem map_text_parts (text : String) :
    (ofText text).parts.map Part.text = splitOnChar '/' text.toList := by
  rw [ofText, List.map_map]
  exact (List.map_congr_left fun written _ => Part.text_ofText written).trans (List.map_id _)

theorem print_parts (text : String) : print (ofText text).parts = text := by
  rw [print, map_text_parts, join_splitOnChar, String.ofList_toList]

/-- Every part of a template is plain and holds no slash. -/
theorem isPlain_of_mem_parts {text : String} {part : Part} (hmem : part ∈ (ofText text).parts) :
    part.IsPlain ∧ '/' ∉ part.text := by
  obtain ⟨written, hwritten, rfl⟩ := List.mem_map.mp hmem
  rw [Part.text_ofText]
  exact ⟨Part.isPlain_ofText written, notMem_of_mem_splitOnChar hwritten⟩

/-- Plain parts without slashes are read off what they are written as. -/
theorem parts_print {parts : List Part} (hne : parts ≠ [])
    (hparts : ∀ part ∈ parts, part.IsPlain ∧ '/' ∉ part.text) :
    (ofText (print parts)).parts = parts := by
  have hpieces : splitOnChar '/' (join ['/'] (parts.map Part.text)) = parts.map Part.text := by
    refine splitOnChar_join (mt List.map_eq_nil_iff.mp hne) fun piece hpiece => ?_
    obtain ⟨part, hmem, rfl⟩ := List.mem_map.mp hpiece
    exact (hparts part hmem).2
  rw [ofText, print, String.toList_ofList, hpieces, List.map_map]
  exact (List.map_congr_left fun part hmem => Part.ofText_text (hparts part hmem).1).trans
    (List.map_id _)

theorem parts_append (first second : String) :
    (ofText (first ++ "/" ++ second)).parts = (ofText first).parts ++ (ofText second).parts := by
  have htext : (first ++ "/" ++ second).toList = first.toList ++ '/' :: second.toList := by
    simp
  rw [ofText, htext, splitOnChar_append_cons, List.map_append]
  rfl

/-- Reading a template loses nothing: its parts are written as its text.  A list of parts is read
back from what it is written as exactly when it is not empty, no part holds a slash, no literal
is enclosed in braces and no name of a required placeholder ends in a question mark.  Texts with
a slash between them are read one by one. -/
theorem parts_lossless :
    (∀ text, print (ofText text).parts = text) ∧
    Function.Injective (fun text => (ofText text).parts) ∧
    (∀ parts, (ofText (print parts)).parts = parts ↔
      parts ≠ [] ∧ ∀ part ∈ parts, part.IsPlain ∧ '/' ∉ part.text) ∧
    ∀ first second,
      (ofText (first ++ "/" ++ second)).parts = (ofText first).parts ++ (ofText second).parts := by
  refine ⟨print_parts, Function.LeftInverse.injective print_parts, fun parts => ⟨?_, ?_⟩,
    parts_append⟩
  · intro hread
    rw [← hread]
    refine ⟨?_, fun part => isPlain_of_mem_parts⟩
    exact mt List.map_eq_nil_iff.mp (splitOnChar_ne_nil '/' _)
  · rintro ⟨hne, hparts⟩
    exact parts_print hne hparts

example : (ofText "/\x7b\x7d/\x7b?\x7d/\x7ba??\x7d/\x7b").parts =
    [.literal "", .placeholder "" false, .placeholder "" true, .placeholder "a?" true,
      .literal "\x7b"] := by decide

end Template

end MarkedRoutes
