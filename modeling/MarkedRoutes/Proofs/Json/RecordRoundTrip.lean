import MarkedRoutes.Json.Records
import MarkedRoutes.Proofs.Json.RoundTrip

/-!
# Reading records back

An object that is written with the members of a record is decoded as the record: each member
that names a field sets the field, and a member of no field is skipped.  When the first member
cannot be read, its fault is the fault of the whole object.
-/

namespace MarkedRoutes.Json

open MarkedRoutes.Text

variable {α β ρ : Type} {shape : RecordShape ρ α} {level : ℕ} {record next last : ρ}
  {tail : List UInt8} {name : String} {value : Json} {member : String × Json}
  {members : List (String × Json)}

/-! ### Values -/

theorem Takes.map {read : Cursor → Except Failure (α × Cursor)} {bytes : List UInt8} {taken : α}
    (htakes : Takes read bytes taken tail) (f : α → β) :
    Takes (fun cursor => (read cursor).map fun found => (f found.1, found.2)) bytes (f taken)
      tail := by
  intro place
  dsimp only
  rw [htakes]
  rfl

theorem takes_stringDecoder (text : String) :
    Takes (stringDecoder level) (utf8 (Json.string text).compact) text tail := by
  intro place
  have htaken := takes_readStringRest text tail (Cursor.placeAfter place 34)
  have hread : ∀ rest, stringDecoder level ⟨34 :: rest, place⟩ =
      readStringRest ⟨rest, Cursor.placeAfter place 34⟩ := fun _ => rfl
  rw [compact, utf8_quoteText, List.cons_append, hread, htaken]
  rfl

theorem EndsNumber.skipNumberEnd_eq (htail : EndsNumber tail) (place : Place) :
    skipNumberEnd ⟨tail, place⟩ = .ok ((), ⟨tail, place⟩) := by
  rw [skipNumberEnd, htail.startsWith_eq_false (by decide)]
  simp only [Bool.false_eq_true, if_false]
  rw [skipOptionalExponent, htail.startsExponent_eq_false]
  rfl

theorem EndsNumber.takes_skipNumber (htail : EndsNumber tail) (number : ℕ) :
    Takes skipNumber (digitBytes number) () tail := by
  intro place
  rcases Nat.eq_zero_or_pos number with rfl | hpositive
  · have hzero : skipNumber ⟨digitBytes 0 ++ tail, place⟩ =
        if (Cursor.mk tail (Cursor.placeAfter place 48)).startsDigit then
          (Cursor.mk tail (Cursor.placeAfter place 48)).failNext .invalidNumber
        else skipNumberEnd ⟨tail, Cursor.placeAfter place 48⟩ := rfl
    rw [hzero, htail.startsDigit_eq_false, htail.skipNumberEnd_eq]
    rfl
  · have hskip := htail.skipDigits_eq number place
    obtain ⟨first, rest, hbytes, hdigit, hne⟩ := digitBytes_eq_cons hpositive
    have hzero : (Cursor.mk (first :: (rest ++ tail)) place).startsWith '0' = false := by
      rw [Cursor.startsWith, beq_eq_false_iff_ne]
      rintro hfirst
      obtain rfl : first = 48 := Option.some.inj hfirst
      exact hne rfl
    have hstarts : (Cursor.mk (first :: (rest ++ tail)) place).startsDigit = true := hdigit
    rw [hbytes, List.cons_append] at hskip ⊢
    rw [skipNumber, hzero, hstarts, hskip]
    exact htail.skipNumberEnd_eq _

/-- A whole number that is no value of a field is skipped. -/
theorem EndsNumber.takes_skipValue (htail : EndsNumber tail) (number : ℕ) :
    Takes skipValue (utf8 (Json.number (.natural number)).compact) () tail := by
  intro place
  have htaken := htail.takes_skipNumber number place
  obtain ⟨first, rest, hbytes, hdigit⟩ := exists_digitBytes_eq number
  have hne : ∀ {c : Char}, c.isDigit = false → byteChar first ≠ c :=
    byteChar_ne_of_isDigitByte hdigit
  have hstarts : (Cursor.mk (first :: (rest ++ tail)) place).startsDigit = true := hdigit
  rw [compact, numberText, utf8_digitChars]
  rw [hbytes, List.cons_append] at htaken ⊢
  have hscalar : skipScalar ⟨first :: (rest ++ tail), place⟩ (byteChar first) =
      skipNumber ⟨first :: (rest ++ tail), place⟩ := by
    rw [skipScalar, if_neg (hne rfl), if_neg (hne rfl), if_neg (hne rfl), if_neg (hne rfl),
      if_neg (hne rfl), if_pos hstarts]
  rw [skipValue, skipNested, beginValue, skipBlanks_cons (isBlankByte_of_isDigitByte hdigit)]
  simp only [Cursor.peek?, List.head?_cons]
  rw [if_neg (hne rfl), if_neg (hne rfl), hscalar, htaken]
  rfl

/-! ### Members -/

/-- A member of an object takes a record to the next one, whatever follows its value. -/
def TakesMember (shape : RecordShape ρ α) (level : ℕ) (record : ρ) (member : String × Json)
    (next : ρ) : Prop :=
  ∀ ⦃tail⦄, EndsNumber tail →
    Takes (shape.readMember level record member.1) (58 :: utf8 member.2.compact) next tail

/-- The members of an object take a record to another one, one after the other. -/
inductive TakesMembers (shape : RecordShape ρ α) (level : ℕ) :
    ρ → List (String × Json) → ρ → Prop
  | nil (record : ρ) : TakesMembers shape level record [] record
  | cons {record next last : ρ} {member : String × Json} {members : List (String × Json)}
      (hfirst : TakesMember shape level record member next)
      (hrest : TakesMembers shape level next members last) :
      TakesMembers shape level record (member :: members) last

/-- A member of no field whose value is skipped leaves the record as it is. -/
theorem takesMember_other (hnone : shape.fields.find? (fun field => field.name = name) = none)
    (hskips : ∀ {tail}, EndsNumber tail → Takes skipValue (utf8 value.compact) () tail) :
    TakesMember shape level record (name, value) record := by
  intro tail htail place
  rw [RecordShape.readMember, hnone, List.cons_append]
  dsimp only
  rw [readColon_colon, ok_bind]
  dsimp only
  rw [hskips htail, ok_bind]
  rfl

/-- A member of a field that is not set is read by the field. -/
theorem takesMember_field {field : Field ρ}
    (hfield : shape.fields.find? (fun field => field.name = name) = some field)
    (hunset : field.isSet record = false)
    (hreads : ∀ {tail}, EndsNumber tail →
      Takes (field.read record level) (utf8 value.compact) next tail) :
    TakesMember shape level record (name, value) next := by
  intro tail htail place
  rw [RecordShape.readMember, hfield, List.cons_append]
  dsimp only
  rw [hunset]
  simp only [Bool.false_eq_true, if_false]
  rw [readColon_colon, ok_bind]
  dsimp only
  rw [hreads htail]
  rfl

/-- The name of a member is read, and then the member and the others. -/
theorem exists_readMembers_eq (shape : RecordShape ρ α) (level : ℕ) (record : ρ)
    {isFirst : Bool} {cursor : Cursor} {behind : List UInt8} {place : Place}
    (hnext : nextMember isFirst cursor =
      .ok (true, ⟨utf8 (compactMember member) ++ behind, place⟩)) :
    ∃ inner, (∀ fuel, shape.readMembers level (fuel + 1) isFirst record cursor =
        shape.readMember level record member.1
            ⟨58 :: utf8 member.2.compact ++ behind, inner⟩ >>= fun found =>
          shape.readMembers level fuel false found.1 found.2) ∧
      placeBehind inner (58 :: utf8 member.2.compact) =
        placeBehind place (utf8 (compactMember member)) := by
  obtain ⟨inner, hname, hplace⟩ := exists_readStringRest_eq member behind place
  refine ⟨inner, fun fuel => ?_, hplace⟩
  rw [RecordShape.readMembers, hnext, ok_bind]
  simp only [if_true]
  rw [hname, ok_bind]
  rfl

theorem readMembers_record_step (hmember : TakesMember shape level record member next)
    {isFirst : Bool} {cursor : Cursor} {behind : List UInt8} {place : Place}
    (hbehind : EndsNumber behind)
    (hnext : nextMember isFirst cursor =
      .ok (true, ⟨utf8 (compactMember member) ++ behind, place⟩)) (fuel : ℕ) :
    shape.readMembers level (fuel + 1) isFirst record cursor =
      shape.readMembers level fuel false next
        ⟨behind, placeBehind place (utf8 (compactMember member))⟩ := by
  obtain ⟨inner, hread, hplace⟩ := exists_readMembers_eq shape level record hnext
  rw [hread, hmember hbehind, ok_bind, hplace]

/-- The members behind the first one are read, and the end of the object is left. -/
theorem takes_recordMembers_others (htakes : TakesMembers shape level record members last)
    {fuel : ℕ} (hfuel : members.length < fuel) :
    Takes (shape.readMembers level fuel false record)
      (utf8 (afterCommas (members.map compactMember))) last (125 :: tail) := by
  induction htakes generalizing fuel with
  | nil record =>
      obtain ⟨fuel, rfl⟩ := Nat.exists_eq_add_of_le' hfuel
      exact fun place => rfl
  | @cons record next last member members hfirst _ ih =>
      intro place
      rw [List.length_cons] at hfuel
      obtain ⟨fuel, rfl⟩ := Nat.exists_eq_add_of_le' (Nat.zero_lt_of_lt hfuel)
      rw [List.map_cons, utf8_afterCommas_cons, List.cons_append, List.append_assoc,
        readMembers_record_step hfirst (endsNumber_afterCommas _ (by decide) tail)
          (nextMember_comma member _ place),
        ih (Nat.lt_of_succ_lt_succ hfuel), placeBehind_cons, placeBehind_append]

theorem takes_recordMembers (htakes : TakesMembers shape level record members last) {fuel : ℕ}
    (hfuel : members.length < fuel) :
    Takes (shape.readMembers level fuel true record)
      (utf8 (commaJoined (members.map compactMember))) last (125 :: tail) := by
  obtain ⟨fuel, rfl⟩ := Nat.exists_eq_add_of_le' (Nat.zero_lt_of_lt hfuel)
  cases htakes with
  | nil => exact fun place => rfl
  | @cons _ next _ member members hfirst hrest =>
      intro place
      rw [List.map_cons, utf8_commaJoined_cons, List.append_assoc,
        readMembers_record_step hfirst (endsNumber_afterCommas _ (by decide) tail)
          (nextMember_first member _ place),
        takes_recordMembers_others hrest (Nat.lt_of_succ_lt_succ hfuel), placeBehind_append]

theorem decoder_brace (rest : List UInt8) (place : Place) :
    shape.decoder (level + 1) ⟨123 :: rest, place⟩ =
      closeWith endObject (shape.finished (shape.readMembers level (rest.length + 1) true
        shape.start ⟨rest, Cursor.placeAfter place 123⟩)) := rfl

/-- An object is decoded as the record to which its members lead. -/
theorem takes_record {value : α} (htakes : TakesMembers shape level shape.start members last)
    (hfinish : shape.finish last = .ok value) :
    Takes (shape.decoder (level + 1)) (utf8 (Json.object members).compact) value tail := by
  intro place
  rw [utf8_compact_object, List.cons_append, List.append_assoc, List.singleton_append,
    decoder_brace, takes_recordMembers htakes (length_lt_compactMembers members),
    RecordShape.finished, ok_bind, placeBehind_cons, placeBehind_append]
  dsimp only
  rw [hfinish]
  rfl

/-! ### Members that cannot be read -/

/-- A reader fails on some bytes, whatever stands behind them. -/
def Refuses (read : Cursor → Except Failure (α × Cursor)) (bytes : List UInt8) (fault : Fault) :
    Prop :=
  ∀ tail place, ∃ failure, read ⟨bytes ++ tail, place⟩ = .error failure ∧
    failure.placed.fault = fault

variable {fault : Fault}

theorem Refuses.map {read : Cursor → Except Failure (α × Cursor)} {bytes : List UInt8}
    (hrefuses : Refuses read bytes fault) (f : α → β) :
    Refuses (fun cursor => (read cursor).map fun found => (f found.1, found.2)) bytes fault := by
  intro tail place
  obtain ⟨failure, hread, hfault⟩ := hrefuses tail place
  refine ⟨failure, ?_, hfault⟩
  dsimp only
  rw [hread]
  rfl

/-- A fault of the content of a list or object is reported with a place, but not changed. -/
theorem exists_closeWith_eq_error {finish : Cursor → Except Failure (Unit × Cursor)}
    {content : Except Failure (α × Cursor)} {failure : Failure}
    (hcontent : content = .error failure) :
    ∃ placed, closeWith finish content = .error placed ∧
      placed.placed.fault = failure.placed.fault := by
  subst hcontent
  obtain ⟨⟨fault, _ | place⟩, cursor⟩ := failure
  · exact ⟨_, rfl, rfl⟩
  · exact ⟨_, rfl, rfl⟩

/-- A member of a field that is not set is refused when the field refuses its value. -/
theorem refuses_field {field : Field ρ}
    (hfield : shape.fields.find? (fun field => field.name = name) = some field)
    (hunset : field.isSet record = false)
    (hrefuses : Refuses (field.read record level) (utf8 value.compact) fault) :
    Refuses (shape.readMember level record name) (58 :: utf8 value.compact) fault := by
  intro tail place
  obtain ⟨failure, hread, hfault⟩ := hrefuses tail (Cursor.placeAfter place 58)
  refine ⟨failure, ?_, hfault⟩
  rw [RecordShape.readMember, hfield, List.cons_append]
  dsimp only
  rw [hunset]
  simp only [Bool.false_eq_true, if_false]
  rw [readColon_colon, ok_bind]
  exact hread

/-- An object is not decoded when its first member is refused. -/
theorem refuses_record
    (hrefuses : Refuses (shape.readMember level shape.start name) (58 :: utf8 value.compact) fault)
    (members : List (String × Json)) :
    Refuses (shape.decoder (level + 1)) (utf8 (Json.object ((name, value) :: members)).compact)
      fault := by
  intro tail place
  obtain ⟨inner, hread, -⟩ := exists_readMembers_eq shape level shape.start (nextMember_first
    (name, value) (utf8 (afterCommas (members.map compactMember)) ++ 125 :: tail)
    (Cursor.placeAfter place 123))
  obtain ⟨failure, hmember, hfault⟩ :=
    hrefuses (utf8 (afterCommas (members.map compactMember)) ++ 125 :: tail) inner
  rw [utf8_compact_object, List.cons_append, List.append_assoc, List.singleton_append,
    decoder_brace, List.map_cons, utf8_commaJoined_cons, List.append_assoc, ← hfault, hread,
    hmember]
  exact exists_closeWith_eq_error rfl

/-- A whole text is not decoded when its decoder refuses it. -/
theorem exists_decode_eq_error {decoder : Decoder α} {text : List Char}
    (hrefuses : Refuses (decoder maxLevels) (utf8 text) fault) :
    ∃ reason, decode decoder (bytesOf (String.ofList text)) = .error reason ∧
      reason.fault = fault := by
  obtain ⟨failure, hread, hfault⟩ := hrefuses [] ⟨1, 0⟩
  rw [List.append_nil] at hread
  refine ⟨failure.placed, ?_, hfault⟩
  rw [decode, Cursor.start, bytesOf, String.toList_ofList, hread]

end MarkedRoutes.Json
