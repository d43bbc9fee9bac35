import MarkedRoutes.Proofs.Json.Members
import MarkedRoutes.Proofs.Json.WrittenScalars

/-!
# Reading values back

A JSON value whose numbers are whole and of 64 bits, whose members are sorted by name, and
which is not nested too deeply, is read back from its text.
-/

namespace MarkedRoutes.Json

open MarkedRoutes.Text

variable {tail : List UInt8} {level : ℕ} {value : Json}

/-! ### Values that their texts stand for -/

/-- A value that its text stands for: lists and objects are nested at most so many levels deep,
the numbers are whole and of 64 bits, and the members of objects are sorted. -/
inductive IsExact : ℕ → Json → Prop
  | null (level : ℕ) : IsExact level .null
  | boolean (level : ℕ) (value : Bool) : IsExact level (.boolean value)
  | natural (level : ℕ) {value : ℕ} (hvalue : value ≤ maxNatural) :
      IsExact level (.number (.natural value))
  | negative (level : ℕ) {value : ℤ} (hvalue : value < 0)
      (hbound : value.natAbs ≤ Nat.pow 2 63) : IsExact level (.number (.negative value))
  | string (level : ℕ) (text : String) : IsExact level (.string text)
  | array {level : ℕ} {elements : List Json}
      (helements : ∀ element ∈ elements, IsExact level element) :
      IsExact (level + 1) (.array elements)
  | object {level : ℕ} {members : List (String × Json)} (hsorted : IsSorted members)
      (hmembers : ∀ member ∈ members, IsExact level member.2) :
      IsExact (level + 1) (.object members)

/-! ### Written items -/

theorem compactElements_eq_map (elements : List Json) :
    compactElements elements = elements.map compact := by
  induction elements with
  | nil => rfl
  | cons element elements ih => rw [compactElements, ih, List.map_cons]

/-- How a member is written. -/
def compactMember (member : String × Json) : List Char :=
  quoteText member.1 ++ ':' :: compact member.2

theorem compactMembers_eq_map (members : List (String × Json)) :
    compactMembers members = members.map compactMember := by
  induction members with
  | nil => rfl
  | cons member members ih =>
      obtain ⟨name, value⟩ := member
      rw [compactMembers, ih, List.map_cons, compactMember]

/-- Items behind a first one each have a comma before them. -/
theorem commaJoined_cons (first : List Char) (others : List (List Char)) :
    commaJoined (first :: others) = first ++ others.flatMap fun item => ',' :: item := by
  induction others generalizing first with
  | nil => simp [commaJoined]
  | cons second others ih => rw [commaJoined, ih, List.flatMap_cons, List.cons_append]

/-! ### First bytes -/

theorem skipBlanks_cons {byte : UInt8} (hbyte : Cursor.isBlankByte byte = false)
    (rest : List UInt8) (place : Place) :
    (Cursor.mk (byte :: rest) place).skipBlanks = ⟨byte :: rest, place⟩ := by
  rw [Cursor.skipBlanks, Cursor.skipBlanksOf, hbyte]
  rfl

theorem isBlankByte_of_isDigitByte {byte : UInt8} (hdigit : isDigitByte byte = true) :
    Cursor.isBlankByte byte = false := by
  have hrange := isDigitByte_iff.mp hdigit
  have hne : ∀ other : UInt8, other.toNat < 48 → (byte == other) = false := by
    intro other hother
    rw [beq_eq_false_iff_ne]
    rintro rfl
    omega
  rw [Cursor.isBlankByte, hne 32 (by decide), hne 10 (by decide), hne 9 (by decide),
    hne 13 (by decide)]
  rfl

theorem readValue_digit (nested : Option (Cursor → Except Failure (Json × Cursor)))
    {byte : UInt8} (hdigit : isDigitByte byte = true) (rest : List UInt8) (place : Place) :
    readValue nested ⟨byte :: rest, place⟩ =
      (readNumber true ⟨byte :: rest, place⟩).map fun found => (.number found.1, found.2) := by
  have hne : ∀ {c : Char}, c.isDigit = false → byteChar byte ≠ c :=
    byteChar_ne_of_isDigitByte hdigit
  have hstarts : (Cursor.mk (byte :: rest) place).startsDigit = true := hdigit
  rw [readValue, beginValue, skipBlanks_cons (isBlankByte_of_isDigitByte hdigit)]
  simp only [Cursor.peek?, List.head?_cons]
  rw [if_neg (hne rfl), if_neg (hne rfl), if_neg (hne rfl), if_neg (hne rfl), if_neg (hne rfl),
    if_neg (hne rfl), if_neg (hne rfl), if_pos hstarts]

/-- Some bytes begin with one that begins an item: neither a blank nor the end of a list. -/
def BeginsItem (bytes : List UInt8) : Prop :=
  ∃ byte rest, bytes = byte :: rest ∧ Cursor.isBlankByte byte = false ∧ byte ≠ 93

theorem IsExact.beginsItem (hexact : IsExact level value) : BeginsItem (utf8 value.compact) := by
  cases hexact with
  | null => exact ⟨110, _, rfl, rfl, by decide⟩
  | boolean _ value => cases value <;> exact ⟨_, _, rfl, rfl, by decide⟩
  | natural level hvalue =>
      rw [compact, numberText, utf8_digitChars]
      obtain ⟨first, rest, hbytes, hdigit⟩ := exists_digitBytes_eq _
      refine ⟨first, rest, hbytes, isBlankByte_of_isDigitByte hdigit, ?_⟩
      rintro rfl
      cases hdigit
  | negative level hvalue hbound =>
      rw [compact, numberText, integerText, decide_eq_true hvalue]
      exact ⟨45, _, rfl, rfl, by decide⟩
  | string text => exact ⟨34, _, rfl, rfl, by decide⟩
  | array helements => exact ⟨91, _, rfl, rfl, by decide⟩
  | object hsorted hmembers => exact ⟨123, _, rfl, rfl, by decide⟩

/-! ### Scalars -/

section Scalars

variable (nested : Option (Cursor → Except Failure (Json × Cursor)))

theorem takes_null : Takes (readValue nested) (utf8 Json.null.compact) .null tail :=
  fun _ => rfl

theorem takes_boolean (value : Bool) :
    Takes (readValue nested) (utf8 (Json.boolean value).compact) (.boolean value) tail := by
  intro place
  cases value <;> rfl

theorem takes_natural (htail : EndsNumber tail) {number : ℕ} (hnumber : number ≤ maxNatural) :
    Takes (readValue nested) (utf8 (Json.number (.natural number)).compact)
      (.number (.natural number)) tail := by
  intro place
  have htaken := htail.takes_readNumber true hnumber place
  obtain ⟨first, rest, hbytes, hdigit⟩ := exists_digitBytes_eq number
  rw [compact, numberText]
  rw [utf8_digitChars, hbytes, List.cons_append] at htaken ⊢
  rw [readValue_digit _ hdigit, htaken]
  rfl

theorem takes_negative (htail : EndsNumber tail) {number : ℤ} (hnumber : number < 0)
    (hbound : number.natAbs ≤ Nat.pow 2 63) :
    Takes (readValue nested) (utf8 (Json.number (.negative number)).compact)
      (.number (.negative number)) tail := by
  intro place
  have hmax : Nat.pow 2 63 ≤ maxNatural := by decide
  have htaken := htail.takes_readNumber false (hbound.trans hmax) (Cursor.placeAfter place 45)
  have hwhole : wholeNumber false number.natAbs = .negative number := by
    have hzero : number.natAbs ≠ 0 := by omega
    have habs : -(number.natAbs : ℤ) = number := by omega
    simp only [wholeNumber, Bool.false_eq_true, if_false, hzero, decide_false, Bool.false_or,
      decide_eq_true_eq, if_neg (Nat.not_lt.mpr hbound), habs]
  have hread : ∀ rest, readValue nested ⟨45 :: rest, place⟩ =
      (readNumber false ⟨rest, Cursor.placeAfter place 45⟩).map fun found =>
        (.number found.1, found.2) := fun _ => rfl
  have hwritten : utf8 (Json.number (.negative number)).compact =
      45 :: utf8 (Decimal.digitChars number.natAbs) := by
    rw [compact, numberText, integerText, decide_eq_true hnumber]
    rfl
  rw [hwritten, List.cons_append, hread, htaken, hwhole]
  rfl

theorem utf8_quoteText (text : String) :
    utf8 (quoteText text) = 34 :: (utf8 (text.toList.flatMap escapeChar) ++ [34]) := by
  rw [quoteText, utf8_cons, utf8_append]
  rfl

theorem takes_string (text : String) :
    Takes (readValue nested) (utf8 (Json.string text).compact) (.string text) tail := by
  intro place
  have htaken := takes_readStringRest text tail (Cursor.placeAfter place 34)
  have hread : ∀ rest, readValue nested ⟨34 :: rest, place⟩ =
      (readStringRest ⟨rest, Cursor.placeAfter place 34⟩).map fun found =>
        (.string found.1, found.2) := fun _ => rfl
  rw [compact, utf8_quoteText, List.cons_append, hread, htaken]
  rfl

end Scalars

/-! ### Items -/

theorem endsNumber_nil : EndsNumber [] := by
  intro byte hnone
  cases hnone

theorem endsNumber_cons {byte : UInt8} (hbyte : byte ∈ [44, 93, 125]) (tail : List UInt8) :
    EndsNumber (byte :: tail) := by
  rintro other hother
  cases hother
  simp only [List.mem_cons, List.not_mem_nil, or_false] at hbyte
  rcases hbyte with rfl | rfl | rfl <;> decide

def afterCommas (items : List (List Char)) : List Char := items.flatMap fun item => ',' :: item

theorem utf8_afterCommas_cons (item : List Char) (items : List (List Char)) :
    utf8 (afterCommas (item :: items)) = 44 :: (utf8 item ++ utf8 (afterCommas items)) := by
  rw [afterCommas, List.flatMap_cons, utf8_append, utf8_cons, List.append_assoc]
  rfl

theorem utf8_commaJoined_cons (item : List Char) (items : List (List Char)) :
    utf8 (commaJoined (item :: items)) = utf8 item ++ utf8 (afterCommas items) := by
  rw [commaJoined_cons, utf8_append, afterCommas]

/-- Behind an item, either another one follows after a comma, or the end. -/
theorem endsNumber_afterCommas (items : List (List Char)) {closing : UInt8}
    (hclosing : closing ∈ [44, 93, 125]) (tail : List UInt8) :
    EndsNumber (utf8 (afterCommas items) ++ closing :: tail) := by
  cases items with
  | nil => exact endsNumber_cons hclosing tail
  | cons item items =>
      rw [utf8_afterCommas_cons]
      exact endsNumber_cons (by decide) _

theorem length_le_afterCommas (items : List (List Char)) :
    items.length ≤ (utf8 (afterCommas items)).length := by
  induction items with
  | nil => exact Nat.le_refl _
  | cons item items ih =>
      rw [utf8_afterCommas_cons, List.length_cons, List.length_cons, List.length_append]
      omega

theorem length_le_commaJoined (items : List (List Char)) :
    items.length ≤ (utf8 (commaJoined items)).length + 1 := by
  cases items with
  | nil => exact Nat.zero_le _
  | cons item items =>
      have hothers := length_le_afterCommas items
      rw [utf8_commaJoined_cons, List.length_cons, List.length_append]
      omega

/-- A reader takes a value from its text, as long as nothing stands behind it that could
continue a number. -/
structure TakesValue (read : Cursor → Except Failure (Json × Cursor)) (value : Json) : Prop where
  begins : BeginsItem (utf8 value.compact)
  takes : ∀ {tail}, EndsNumber tail → Takes read (utf8 value.compact) value tail

variable {read : Cursor → Except Failure (Json × Cursor)}

/-! ### Lists -/

theorem BeginsItem.startsWith_eq_false {bytes : List UInt8} (hbytes : BeginsItem bytes)
    (place : Place) : (Cursor.mk (bytes ++ tail) place).startsWith ']' = false := by
  obtain ⟨byte, rest, rfl, -, hend⟩ := hbytes
  rw [Cursor.startsWith, beq_eq_false_iff_ne]
  exact fun hsome => hend (Option.some.inj hsome)

theorem nextElement_first {bytes : List UInt8} (hbytes : BeginsItem bytes) (place : Place) :
    nextElement true ⟨bytes ++ tail, place⟩ = .ok (true, ⟨bytes ++ tail, place⟩) := by
  have hends : (Cursor.mk (bytes ++ tail) place).startsWith ']' = false :=
    hbytes.startsWith_eq_false place
  obtain ⟨byte, rest, rfl, hblank, -⟩ := hbytes
  rw [List.cons_append] at hends ⊢
  rw [nextElement, skipBlanks_cons hblank]
  simp only [List.isEmpty_cons, Bool.false_eq_true, if_false, hends, if_true]

theorem nextElement_comma {bytes : List UInt8} (hbytes : BeginsItem bytes) (place : Place) :
    nextElement false ⟨44 :: (bytes ++ tail), place⟩ =
      .ok (true, ⟨bytes ++ tail, Cursor.placeAfter place 44⟩) := by
  have hends : (Cursor.mk (bytes ++ tail) (Cursor.placeAfter place 44)).startsWith ']' = false :=
    hbytes.startsWith_eq_false _
  obtain ⟨byte, rest, rfl, hblank, -⟩ := hbytes
  have hcomma : nextElement false ⟨44 :: (byte :: rest ++ tail), place⟩ =
      let cursor := (Cursor.mk (byte :: (rest ++ tail)) (Cursor.placeAfter place 44)).skipBlanks
      if cursor.rest.isEmpty then cursor.failNext .endInValue
      else if cursor.startsWith ']' then cursor.failNext .trailingComma
      else .ok (true, cursor) := rfl
  rw [List.cons_append] at hends
  rw [hcomma, skipBlanks_cons hblank]
  simp only [List.isEmpty_cons, Bool.false_eq_true, if_false, hends]
  rfl

/-- An element is read, and then the others. -/
theorem readElements_step {element : Json} (helement : TakesValue read element) {isFirst : Bool}
    {cursor : Cursor} {behind : List UInt8} {place : Place} (hbehind : EndsNumber behind)
    (hnext : nextElement isFirst cursor =
      .ok (true, ⟨utf8 element.compact ++ behind, place⟩)) (fuel : ℕ) :
    readElements read (fuel + 1) isFirst cursor =
      readElements read fuel false ⟨behind, placeBehind place (utf8 element.compact)⟩ >>=
        fun others => .ok (element :: others.1, others.2) := by
  rw [readElements, hnext, ok_bind]
  simp only [if_true]
  rw [helement.takes hbehind, ok_bind]

variable {elements : List Json}

/-- The elements behind the first one are taken, and the end of the list is left. -/
theorem takes_readElements_others (helements : ∀ element ∈ elements, TakesValue read element)
    {fuel : ℕ} (hfuel : elements.length < fuel) :
    Takes (readElements read fuel false) (utf8 (afterCommas (compactElements elements))) elements
      (93 :: tail) := by
  induction elements generalizing fuel with
  | nil =>
      obtain ⟨fuel, rfl⟩ := Nat.exists_eq_add_of_le' hfuel
      exact fun place => rfl
  | cons element elements ih =>
      intro place
      rw [List.forall_mem_cons] at helements
      rw [List.length_cons] at hfuel
      obtain ⟨fuel, rfl⟩ := Nat.exists_eq_add_of_le' (Nat.zero_lt_of_lt hfuel)
      rw [compactElements, utf8_afterCommas_cons, List.cons_append, List.append_assoc,
        readElements_step helements.1 (endsNumber_afterCommas _ (by decide) tail)
          (nextElement_comma helements.1.begins place),
        ih helements.2 (Nat.lt_of_succ_lt_succ hfuel), ok_bind, placeBehind_cons,
        placeBehind_append]

theorem takes_readElements (helements : ∀ element ∈ elements, TakesValue read element)
    {fuel : ℕ} (hfuel : elements.length < fuel) :
    Takes (readElements read fuel true) (utf8 (commaJoined (compactElements elements))) elements
      (93 :: tail) := by
  obtain ⟨fuel, rfl⟩ := Nat.exists_eq_add_of_le' (Nat.zero_lt_of_lt hfuel)
  cases elements with
  | nil => exact fun place => rfl
  | cons element elements =>
      intro place
      rw [List.forall_mem_cons] at helements
      rw [compactElements, utf8_commaJoined_cons, List.append_assoc,
        readElements_step helements.1 (endsNumber_afterCommas _ (by decide) tail)
          (nextElement_first helements.1.begins place),
        takes_readElements_others helements.2 (Nat.lt_of_succ_lt_succ hfuel), ok_bind,
        placeBehind_append]

/-- A list is taken from its text when its elements are. -/
theorem takes_array (helements : ∀ element ∈ elements, TakesValue read element) :
    Takes (readValue (some read)) (utf8 (Json.array elements).compact) (.array elements) tail := by
  intro place
  have hwritten : utf8 (Json.array elements).compact =
      91 :: (utf8 (commaJoined (compactElements elements)) ++ [93]) := by
    rw [compact, utf8_cons, utf8_append]
    rfl
  have hread : ∀ rest, readValue (some read) ⟨91 :: rest, place⟩ =
      (closeWith endList (readElements read (rest.length + 1) true
        ⟨rest, Cursor.placeAfter place 91⟩)).map fun found =>
          (.array found.1, found.2) := fun _ => rfl
  have hfuel : elements.length <
      (utf8 (commaJoined (compactElements elements)) ++ 93 :: tail).length + 1 := by
    have hlength := length_le_commaJoined (compactElements elements)
    rw [compactElements_eq_map, List.length_map] at hlength
    rw [compactElements_eq_map, List.length_append, List.length_cons]
    omega
  rw [hwritten, List.cons_append, List.append_assoc, List.singleton_append, hread,
    takes_readElements helements hfuel, placeBehind_cons, placeBehind_append]
  rfl

/-! ### Objects -/

/-- The name of a member is read, and its colon and value are left. -/
theorem exists_readStringRest_eq (member : String × Json) (behind : List UInt8) (place : Place) :
    ∃ inner, readStringRest (Cursor.advance ⟨utf8 (compactMember member) ++ behind, place⟩) =
        .ok (member.1, ⟨58 :: (utf8 member.2.compact ++ behind), inner⟩) ∧
      placeBehind inner (58 :: utf8 member.2.compact) =
        placeBehind place (utf8 (compactMember member)) := by
  obtain ⟨name, value⟩ := member
  have hname := takes_readStringRest name (58 :: (utf8 value.compact ++ behind))
  generalize hquoted : utf8 (name.toList.flatMap escapeChar) ++ [34] = quoted at hname
  have hwritten : utf8 (compactMember (name, value)) =
      34 :: (quoted ++ 58 :: utf8 value.compact) := by
    rw [compactMember, utf8_append, utf8_quoteText, hquoted, utf8_cons, List.cons_append]
    rfl
  refine ⟨placeBehind (Cursor.placeAfter place 34) quoted, ?_, ?_⟩
  · rw [hwritten, List.cons_append, List.append_assoc, List.cons_append]
    exact hname _
  · rw [hwritten]
    exact (placeBehind_append _ _ _).symm

theorem nextMember_first (member : String × Json) (rest : List UInt8) (place : Place) :
    nextMember true ⟨utf8 (compactMember member) ++ rest, place⟩ =
      .ok (true, ⟨utf8 (compactMember member) ++ rest, place⟩) := rfl

theorem nextMember_comma (member : String × Json) (rest : List UInt8) (place : Place) :
    nextMember false ⟨44 :: (utf8 (compactMember member) ++ rest), place⟩ =
      .ok (true, ⟨utf8 (compactMember member) ++ rest, Cursor.placeAfter place 44⟩) := rfl

theorem readColon_colon (rest : List UInt8) (place : Place) :
    readColon ⟨58 :: rest, place⟩ = .ok ((), ⟨rest, Cursor.placeAfter place 58⟩) := rfl

/-- A member is read, and then the others. -/
theorem readMembers_step {member : String × Json} (hmember : TakesValue read member.2)
    {isFirst : Bool} {cursor : Cursor} {behind : List UInt8} {place : Place}
    (hbehind : EndsNumber behind)
    (hnext : nextMember isFirst cursor =
      .ok (true, ⟨utf8 (compactMember member) ++ behind, place⟩)) (fuel : ℕ) :
    readMembers read (fuel + 1) isFirst cursor =
      readMembers read fuel false ⟨behind, placeBehind place (utf8 (compactMember member))⟩ >>=
        fun others => .ok (member :: others.1, others.2) := by
  obtain ⟨inner, hname, hplace⟩ := exists_readStringRest_eq member behind place
  rw [readMembers, hnext, ok_bind]
  simp only [if_true]
  rw [hname, ok_bind]
  dsimp only
  rw [readColon_colon, ok_bind]
  dsimp only
  rw [hmember.takes hbehind, ok_bind, ← hplace]
  rfl

variable {members : List (String × Json)}

/-- The members behind the first one are taken, and the end of the object is left. -/
theorem takes_readMembers_others (hmembers : ∀ member ∈ members, TakesValue read member.2)
    {fuel : ℕ} (hfuel : members.length < fuel) :
    Takes (readMembers read fuel false) (utf8 (afterCommas (members.map compactMember))) members
      (125 :: tail) := by
  induction members generalizing fuel with
  | nil =>
      obtain ⟨fuel, rfl⟩ := Nat.exists_eq_add_of_le' hfuel
      exact fun place => rfl
  | cons member members ih =>
      intro place
      rw [List.forall_mem_cons] at hmembers
      rw [List.length_cons] at hfuel
      obtain ⟨fuel, rfl⟩ := Nat.exists_eq_add_of_le' (Nat.zero_lt_of_lt hfuel)
      rw [List.map_cons, utf8_afterCommas_cons, List.cons_append, List.append_assoc,
        readMembers_step hmembers.1 (endsNumber_afterCommas _ (by decide) tail)
          (nextMember_comma member _ place),
        ih hmembers.2 (Nat.lt_of_succ_lt_succ hfuel), ok_bind, placeBehind_cons,
        placeBehind_append]

theorem takes_readMembers (hmembers : ∀ member ∈ members, TakesValue read member.2)
    {fuel : ℕ} (hfuel : members.length < fuel) :
    Takes (readMembers read fuel true) (utf8 (commaJoined (members.map compactMember))) members
      (125 :: tail) := by
  obtain ⟨fuel, rfl⟩ := Nat.exists_eq_add_of_le' (Nat.zero_lt_of_lt hfuel)
  cases members with
  | nil => exact fun place => rfl
  | cons member members =>
      intro place
      rw [List.forall_mem_cons] at hmembers
      rw [List.map_cons, utf8_commaJoined_cons, List.append_assoc,
        readMembers_step hmembers.1 (endsNumber_afterCommas _ (by decide) tail)
          (nextMember_first member _ place),
        takes_readMembers_others hmembers.2 (Nat.lt_of_succ_lt_succ hfuel), ok_bind,
        placeBehind_append]

theorem utf8_compact_object (members : List (String × Json)) :
    utf8 (Json.object members).compact =
      123 :: (utf8 (commaJoined (members.map compactMember)) ++ [125]) := by
  rw [compact, compactMembers_eq_map, utf8_cons, utf8_append]
  rfl

/-- There is fuel for every member of an object. -/
theorem length_lt_compactMembers (members : List (String × Json)) :
    members.length <
      (utf8 (commaJoined (members.map compactMember)) ++ 125 :: tail).length + 1 := by
  have hlength := length_le_commaJoined (members.map compactMember)
  rw [List.length_map] at hlength
  rw [List.length_append, List.length_cons]
  omega

/-- An object with sorted members is taken from its text when their values are. -/
theorem takes_object (hsorted : IsSorted members)
    (hmembers : ∀ member ∈ members, TakesValue read member.2) :
    Takes (readValue (some read)) (utf8 (Json.object members).compact) (.object members) tail := by
  intro place
  have hread : ∀ rest, readValue (some read) ⟨123 :: rest, place⟩ =
      (closeWith endObject (readMembers read (rest.length + 1) true
        ⟨rest, Cursor.placeAfter place 123⟩)).map fun found =>
          (ofMembers found.1, found.2) := fun _ => rfl
  rw [utf8_compact_object, List.cons_append, List.append_assoc, List.singleton_append, hread,
    takes_readMembers hmembers (length_lt_compactMembers members), placeBehind_cons,
    placeBehind_append]
  change Except.ok (ofMembers members, _) = _
  rw [ofMembers_of_isSorted hsorted]
  rfl

/-! ### Values -/

/-- A value is taken at every level when it is taken whatever reads the values inside it. -/
theorem takes_valueDecoder {bytes : List UInt8}
    (htaken : ∀ nested, Takes (readValue nested) bytes value tail) (level : ℕ) :
    Takes (valueDecoder level) bytes value tail := by
  cases level with
  | zero => exact htaken none
  | succ level => exact htaken (some (valueDecoder level))

/-- A value that its text stands for is taken from it. -/
theorem IsExact.takesValue (hexact : IsExact level value) :
    TakesValue (valueDecoder level) value := by
  refine ⟨hexact.beginsItem, fun {tail} htail => ?_⟩
  -- What stands behind an inner value differs from what stands behind the whole.
  induction hexact generalizing tail with
  | null level => exact takes_valueDecoder takes_null level
  | boolean level value =>
      exact takes_valueDecoder (fun nested => takes_boolean nested value) level
  | natural level hvalue =>
      exact takes_valueDecoder (fun nested => takes_natural nested htail hvalue) level
  | negative level hvalue hbound =>
      exact takes_valueDecoder (fun nested => takes_negative nested htail hvalue hbound) level
  | string level text =>
      exact takes_valueDecoder (fun nested => takes_string nested text) level
  | array helements ih =>
      exact takes_array fun element hmem =>
        ⟨(helements element hmem).beginsItem, fun htail => ih element hmem htail⟩
  | object hsorted hmembers ih =>
      exact takes_object hsorted fun member hmem =>
        ⟨(hmembers member hmem).beginsItem, fun htail => ih member hmem htail⟩

/-- A whole text is decoded as the value that its decoder takes from it. -/
theorem decode_of_takes {α : Type} {decoder : Decoder α} {text : List Char} {value : α}
    (htakes : Takes (decoder maxLevels) (utf8 text) value []) :
    decode decoder (bytesOf (String.ofList text)) = .ok value := by
  have hread := htakes ⟨1, 0⟩
  rw [List.append_nil] at hread
  rw [decode, Cursor.start, bytesOf, String.toList_ofList, hread]
  rfl

/-- A value that its text stands for is read back from it. -/
theorem ofText_text (hexact : IsExact maxLevels value) : ofText value.text = .ok value :=
  decode_of_takes (hexact.takesValue.takes endsNumber_nil)

end MarkedRoutes.Json
