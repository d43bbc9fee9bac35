/-!
# Splitting and joining

Splitting a text at every occurrence of a separator, and joining pieces with
one.  Splitting never returns an empty list, joining the pieces gives the text
back, and pieces without the separator that were joined are split again.
-/

namespace MarkedRoutes.Text

/-- Puts a character in front of the first piece. -/
def consHead (c : Char) : List (List Char) → List (List Char)
  | [] => [[c]]
  | first :: rest => (c :: first) :: rest

/-- The pieces of a text between the occurrences of a character. -/
def splitOnChar (separator : Char) : List Char → List (List Char)
  | [] => [[]]
  | c :: rest =>
    if c = separator then [] :: splitOnChar separator rest
    else consHead c (splitOnChar separator rest)

def join (separator : List Char) : List (List Char) → List Char
  | [] => []
  | [last] => last
  | first :: second :: rest => first ++ (separator ++ join separator (second :: rest))

/-- The pieces of a path between its `::`. -/
def splitOnColons : List Char → List (List Char)
  | ':' :: ':' :: rest => [] :: splitOnColons rest
  | c :: rest => consHead c (splitOnColons rest)
  | [] => [[]]

def joinTexts (separator : String) (texts : List String) : String :=
  String.ofList (join separator.toList (texts.map String.toList))

/-- Strips a text from the head of another. -/
def dropFront? : List Char → List Char → Option (List Char)
  | [], text => some text
  | _ :: _, [] => none
  | expected :: more, c :: rest => if expected = c then dropFront? more rest else none

/-- What stands in front of a text that another text ends in. -/
def dropBack? (suffix text : List Char) : Option (List Char) :=
  (dropFront? suffix.reverse text.reverse).map List.reverse

theorem dropFront?_eq_some_iff {expected text rest : List Char} :
    dropFront? expected text = some rest ↔ text = expected ++ rest := by
  induction expected generalizing text with
  | nil => simp [dropFront?]
  | cons c expected ih =>
    cases text with
    | nil => simp [dropFront?]
    | cons d text =>
      simp only [dropFront?, Option.ite_none_right_eq_some, ih, List.cons_append,
        List.cons.injEq]
      exact and_congr_left fun _ => eq_comm

theorem splitOnChar_ne_nil (separator : Char) (text : List Char) :
    splitOnChar separator text ≠ [] := by
  cases text with
  | nil => simp [splitOnChar]
  | cons c rest =>
    simp only [splitOnChar]
    split
    · simp
    · cases splitOnChar separator rest <;> simp [consHead]

theorem mem_consHead {c : Char} {pieces : List (List Char)} {piece : List Char}
    (hmem : piece ∈ consHead c pieces) :
    piece ∈ pieces ∨ piece = [c] ∨ ∃ first ∈ pieces, piece = c :: first := by
  match pieces with
  | [] => exact Or.inr (Or.inl (List.mem_singleton.mp hmem))
  | first :: rest =>
    rcases List.mem_cons.mp hmem with heq | hrest
    · exact Or.inr (Or.inr ⟨first, List.mem_cons_self, heq⟩)
    · exact Or.inl (List.mem_cons_of_mem first hrest)

/-- No piece holds the separator. -/
theorem notMem_of_mem_splitOnChar {separator : Char} {text piece : List Char}
    (hmem : piece ∈ splitOnChar separator text) : separator ∉ piece := by
  induction text generalizing piece with
  | nil =>
    rw [splitOnChar, List.mem_singleton] at hmem
    simp [hmem]
  | cons c rest ih =>
    rw [splitOnChar] at hmem
    split at hmem
    · rcases List.mem_cons.mp hmem with rfl | hrest
      · simp
      · exact ih hrest
    · next hc =>
      rcases mem_consHead hmem with hrest | rfl | ⟨first, hfirst, rfl⟩
      · exact ih hrest
      · simpa using Ne.symm hc
      · simpa [Ne.symm hc] using ih hfirst

theorem join_consHead (separator : List Char) (c : Char) {pieces : List (List Char)}
    (h : pieces ≠ []) : join separator (consHead c pieces) = c :: join separator pieces := by
  match pieces, h with
  | [last], _ => rfl
  | first :: second :: rest, _ => simp [consHead, join]

theorem join_splitOnChar (separator : Char) (text : List Char) :
    join [separator] (splitOnChar separator text) = text := by
  induction text with
  | nil => rfl
  | cons c rest ih =>
    simp only [splitOnChar]
    split
    · next h =>
      subst h
      match hs : splitOnChar c rest, splitOnChar_ne_nil c rest with
      | first :: more, _ =>
        rw [hs] at ih
        simp [join, ih]
    · rw [join_consHead _ _ (splitOnChar_ne_nil separator rest), ih]

theorem splitOnChar_append {separator : Char} {piece : List Char} (hpiece : separator ∉ piece)
    (rest : List Char) :
    splitOnChar separator (piece ++ separator :: rest) = piece :: splitOnChar separator rest := by
  induction piece with
  | nil => exact if_pos rfl
  | cons c piece ih =>
      obtain ⟨hc, hpiece⟩ := not_or.mp (mt List.mem_cons.mpr hpiece)
      rw [List.cons_append, splitOnChar, if_neg (Ne.symm hc), ih hpiece]
      rfl

/-- The pieces of two texts with a separator between them are those of the one and then those of
the other. -/
theorem splitOnChar_append_cons (separator : Char) (first second : List Char) :
    splitOnChar separator (first ++ separator :: second) =
      splitOnChar separator first ++ splitOnChar separator second := by
  induction first with
  | nil => exact if_pos rfl
  | cons c first ih =>
      rw [List.cons_append, splitOnChar, splitOnChar, ih]
      split
      · rw [List.cons_append]
      · obtain ⟨piece, pieces, hpieces⟩ :=
          List.exists_cons_of_ne_nil (splitOnChar_ne_nil separator first)
        rw [hpieces, List.cons_append, consHead, consHead, List.cons_append]

theorem splitOnChar_of_notMem {separator : Char} {piece : List Char} (hpiece : separator ∉ piece) :
    splitOnChar separator piece = [piece] := by
  induction piece with
  | nil => rfl
  | cons c piece ih =>
      obtain ⟨hc, hpiece⟩ := not_or.mp (mt List.mem_cons.mpr hpiece)
      rw [splitOnChar, if_neg (Ne.symm hc), ih hpiece]
      rfl

/-- Pieces that were joined are split again. -/
theorem splitOnChar_join {separator : Char} {pieces : List (List Char)} (hne : pieces ≠ [])
    (hpieces : ∀ piece ∈ pieces, separator ∉ piece) :
    splitOnChar separator (join [separator] pieces) = pieces := by
  induction pieces with
  | nil => exact absurd rfl hne
  | cons first pieces ih =>
      obtain ⟨hfirst, hrest⟩ := List.forall_mem_cons.mp hpieces
      cases pieces with
      | nil => exact splitOnChar_of_notMem hfirst
      | cons second pieces =>
          rw [join, List.singleton_append, splitOnChar_append hfirst,
            ih (List.cons_ne_nil second pieces) hrest]

end MarkedRoutes.Text
