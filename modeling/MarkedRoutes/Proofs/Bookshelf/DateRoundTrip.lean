import MarkedRoutes.Proofs.Bookshelf.DateTexts
import MarkedRoutes.Proofs.Bookshelf.Runs
import MarkedRoutes.Proofs.Json.RecordRoundTrip
import MarkedRoutes.Proofs.Text.PercentEncoding

/-!
# Dates sent back

A date whose year is written in four digits is read back from its text: by both converters,
from a path, from a JSON body and from the answer that shows a book.  Years before zero are
written with a sign and years after 9999 with more than four digits, so that the texts of all
other dates are read as none.
-/

namespace MarkedRoutes.Bookshelf

open MarkedRoutes.Http
open MarkedRoutes.Serving
open MarkedRoutes.Text

/-! ### Texts -/

theorem isDigit_of_mem_padded {width number : ℕ} {c : Char}
    (hmem : c ∈ Date.padded width (Decimal.digitChars number)) : c.isDigit = true := by
  rw [Date.padded, List.mem_append] at hmem
  rcases hmem with hzero | hdigit
  · rw [List.eq_of_mem_replicate hzero]
    rfl
  · exact Nat.isDigit_of_mem_toDigits (by decide) (by decide) hdigit

/-- Digits with zeros in front write the number of the digits. -/
theorem writesNumber_padded {width number : ℕ} (hwidth : 0 < width)
    (hnumber : number < 10 ^ width) :
    WritesNumber width (Date.padded width (Decimal.digitChars number)) number where
  length_eq := by
    have hlength : (Nat.toDigits 10 number).length ≤ width :=
      (Nat.length_toDigits_le_iff (by decide) hwidth).mpr hnumber
    rw [Date.padded, Decimal.digitChars, List.length_append, List.length_replicate]
    omega
  isDigit _ := isDigit_of_mem_padded
  number_eq := by
    rw [Date.padded, Decimal.digitChars, Nat.ofDigitChars_append, Nat.ofDigitChars_replicate_zero,
      Nat.mul_zero, Nat.ofDigitChars_ten_toDigits]

namespace Date

variable {date : Date}

/-- The year is written in four digits. -/
def HasShortYear (date : Date) : Prop := 0 ≤ date.year ∧ date.year ≤ 9999

theorem toList_text (date : Date) :
    date.text.toList = yearText date.year ++ '-' :: (padded 2 (Decimal.digitChars date.month) ++
      '-' :: padded 2 (Decimal.digitChars date.day)) := by
  rw [text, String.toList_ofList, List.append_assoc, List.cons_append]

theorem isHyphenated_text (hyear : date.HasShortYear) :
    IsHyphenated WritesNumber date.text.toList date.year.toNat date.month date.day := by
  obtain ⟨hfirst, hlast⟩ := hyear
  have hvalid := date.valid
  simp only [isDay, Bool.and_eq_true, decide_eq_true_eq] at hvalid
  obtain ⟨⟨⟨-, hmonth⟩, -⟩, hday⟩ := hvalid
  have hlength : daysInMonth date.year date.month ≤ 31 := by
    rw [daysInMonth]
    split_ifs <;> decide
  have hwritten : yearText date.year = padded 4 (Decimal.digitChars date.year.toNat) :=
    if_neg (by omega)
  rw [toList_text, hwritten]
  exact .intro (writesNumber_padded (by decide) (by omega))
    (writesNumber_padded (by decide) (by omega)) (writesNumber_padded (by decide) (by omega))

theorem ofText?_text_of_hasShortYear (hyear : date.HasShortYear) :
    ofText? date.text = some date :=
  ofText?_eq_some_iff.mpr ⟨_, _, _, (isHyphenated_text hyear).mono .digits,
    (isDay_iff _ _ _).mp (by rw [Int.toNat_of_nonneg hyear.1, date.valid]),
    (Int.toNat_of_nonneg hyear.1).symm, rfl, rfl⟩

/-- In a text that is read as a date the first hyphen has four characters before it. -/
theorem length_eq_four {text : String} {first rest : List Char} (hfirst : '-' ∉ first)
    (htext : text.toList = first ++ '-' :: rest) (hdate : ofText? text = some date) :
    first.length = 4 := by
  obtain ⟨year, month, day, hform, -⟩ := ofText?_eq_some_iff.mp hdate
  generalize text.toList = written at hform htext
  obtain ⟨hyear, -, -⟩ := hform
  have hpieces := congrArg (splitOnChar '-') htext
  rw [splitOnChar_append hyear.hyphen_notMem, splitOnChar_append hfirst, List.cons.injEq] at hpieces
  rw [← hpieces.1]
  exact hyear.length_eq (by decide)

theorem ofText?_text_eq_none (hyear : ¬ date.HasShortYear) : ofText? date.text = none := by
  rw [Option.eq_none_iff_forall_ne_some]
  intro other hdate
  by_cases hsign : date.year < 0
  · have hwritten : yearText date.year = '-' :: padded 3 (Decimal.digitChars date.year.natAbs) :=
      if_pos hsign
    have htext := date.toList_text
    rw [hwritten] at htext
    cases length_eq_four (List.not_mem_nil) htext hdate
  · have hwritten : yearText date.year = padded 4 (Decimal.digitChars date.year.toNat) :=
      if_neg hsign
    have hlong : ¬ (Nat.toDigits 10 date.year.toNat).length ≤ 4 := by
      rw [Nat.length_toDigits_le_iff (by decide) (by decide)]
      rw [HasShortYear] at hyear
      omega
    have hhyphen : '-' ∉ yearText date.year := by
      intro hmem
      rw [hwritten] at hmem
      cases isDigit_of_mem_padded hmem
    have hlength := length_eq_four hhyphen date.toList_text hdate
    rw [hwritten, padded, Decimal.digitChars, List.length_append] at hlength
    omega

/-- The hyphens of a date's text are no digits, so the second way of reading does not apply. -/
theorem read_text (date : Date) : compactConverter.read date.text = ofText? date.text := by
  have hdigits : ofDigits? date.text.toList = none := by
    rw [Option.eq_none_iff_forall_ne_some]
    intro other hother
    obtain ⟨_, _, _, hcompact, -⟩ := ofDigits?_eq_some_iff.mp hother
    have hhyphen : '-' ∈ date.text.toList := by
      rw [toList_text]
      exact List.mem_append_right _ List.mem_cons_self
    cases hcompact.isDigit _ hhyphen
  rw [compactConverter]
  dsimp only
  rw [hdigits]
  cases ofText? date.text <;> rfl

/-! ### Paths -/

theorem isDigit_of_mem_yearText {year : ℤ} {c : Char} (hmem : c ∈ yearText year) (hc : c ≠ '-') :
    c.isDigit = true := by
  rw [yearText] at hmem
  split at hmem
  · rcases List.mem_cons.mp hmem with rfl | hdigit
    · exact absurd rfl hc
    · exact isDigit_of_mem_padded hdigit
  · exact isDigit_of_mem_padded hmem

/-- The text of a date holds digits and hyphens only. -/
theorem isDigit_of_mem_text {c : Char} (hmem : c ∈ date.text.toList) (hc : c ≠ '-') :
    c.isDigit = true := by
  simp only [toList_text, List.mem_append, List.mem_cons, hc, false_or] at hmem
  rcases hmem with hyear | hmonth | hday
  · exact isDigit_of_mem_yearText hyear hc
  · exact isDigit_of_mem_padded hmonth
  · exact isDigit_of_mem_padded hday

/-- Nothing in the text of a date is escaped in a path. -/
theorem standsFor_text (date : Date) : StandsFor date.text.toList date.text := by
  have hpercent : '%' ∉ date.text.toList := by
    intro hmem
    cases isDigit_of_mem_text hmem (by decide)
  exact Or.inl (percentDecode_utf8 hpercent).symm

/-- A date is read from a path by the registered converter of dates. -/
theorem parameter_date {request : Request} {source : TextSource} {name text : String}
    (htext : sourceText? request source name = some text) :
    parameter request source name (.host .date) =
      (ofText? text).elim (.error (.parameter name source)) .ok := by
  have hconverter : registries.converters.get? (.host .date) = some converter := rfl
  exact parameter_of_converter hconverter htext

/-! ### Bodies -/

section Bodies

variable {level : ℕ} {tail : List UInt8}

theorem takes_decoder (hread : ofText? date.text = some date) :
    Json.Takes (decoder level) (utf8 date.json.compact) date tail := by
  intro place
  rw [decoder, json, Json.takes_stringDecoder, ok_bind]
  dsimp only
  rw [hread]

theorem refuses_decoder (hread : ofText? date.text = none) :
    Json.Refuses (decoder level) (utf8 date.json.compact) (.custom (faultMessage date.text)) := by
  intro tail place
  refine ⟨⟨⟨.custom (faultMessage date.text), none⟩,
    ⟨tail, Json.placeBehind place (utf8 date.json.compact)⟩⟩, ?_, rfl⟩
  rw [decoder, json, Json.takes_stringDecoder, ok_bind]
  dsimp only
  rw [hread]
  rfl

end Bodies

end Date

/-! ### Books -/

namespace NewBook

variable {new : NewBook} {level : ℕ} {fields : Fields}

def Fields.withAdded (fields : Fields) (added : Date) : Fields :=
  { fields with added := some added }

def addedField : Json.Field Fields where
  name := "added"
  isSet fields := fields.added.isSome
  read fields level cursor := (Date.decoder level cursor).map fun found =>
    (fields.withAdded found.1, found.2)

theorem find?_added :
    shape.fields.find? (fun field => field.name = "added") = some addedField := rfl

theorem takes_addedField {bytes tail : List UInt8} {added : Date}
    (hdate : Json.Takes (Date.decoder level) bytes added tail) :
    Json.Takes (addedField.read fields level) bytes (fields.withAdded added) tail :=
  hdate.map fields.withAdded

theorem refuses_addedField {bytes : List UInt8} {fault : Json.Fault}
    (hdate : Json.Refuses (Date.decoder level) bytes fault) :
    Json.Refuses (addedField.read fields level) bytes fault :=
  hdate.map fields.withAdded

/-- A member that names a text field sets the field. -/
theorem takesMember_text {name text : String} {next : Fields} {get : Fields → Option String}
    {set : Fields → String → Fields}
    (hfield : shape.fields.find? (fun field => field.name = name) = some (textField name get set))
    (hunset : get fields = none) (hnext : set fields text = next) :
    Json.TakesMember shape level fields (name, .string text) next := by
  have hset : (textField name get set).isSet fields = false := Option.isSome_eq_false_iff.mpr
    (Option.isNone_iff_eq_none.mpr hunset)
  subst hnext
  exact Json.takesMember_field hfield hset fun _ =>
    (Json.takes_stringDecoder text).map (set fields)

def members (new : NewBook) (id : ℕ) : List (String × Json) :=
  [("added", new.added.json), ("author", .string new.author), ("id", .ofNat id),
    ("shelf", .string new.shelf), ("title", .string new.title)]

theorem takesMembers (hread : Date.ofText? new.added.text = some new.added) (id : ℕ) :
    Json.TakesMembers shape level shape.start (new.members id)
      ⟨some new.title, some new.author, some new.shelf, some new.added⟩ := by
  have hadded : Json.TakesMember shape level shape.start ("added", new.added.json)
      ⟨none, none, none, some new.added⟩ :=
    Json.takesMember_field find?_added rfl fun _ => takes_addedField (Date.takes_decoder hread)
  have hauthor : Json.TakesMember shape level ⟨none, none, none, some new.added⟩
      ("author", .string new.author) ⟨none, some new.author, none, some new.added⟩ :=
    takesMember_text rfl rfl rfl
  have hid : Json.TakesMember shape level ⟨none, some new.author, none, some new.added⟩
      ("id", .ofNat id) ⟨none, some new.author, none, some new.added⟩ :=
    Json.takesMember_other rfl fun htail => htail.takes_skipValue id
  have hshelf : Json.TakesMember shape level ⟨none, some new.author, none, some new.added⟩
      ("shelf", .string new.shelf) ⟨none, some new.author, some new.shelf, some new.added⟩ :=
    takesMember_text rfl rfl rfl
  have htitle : Json.TakesMember shape level
      ⟨none, some new.author, some new.shelf, some new.added⟩ ("title", .string new.title)
      ⟨some new.title, some new.author, some new.shelf, some new.added⟩ :=
    takesMember_text rfl rfl rfl
  exact .cons hadded (.cons hauthor (.cons hid (.cons hshelf (.cons htitle (.nil _)))))

/-- The answer that shows a book is read back as the book without its number. -/
theorem decode_row (hread : Date.ofText? new.added.text = some new.added) (id : ℕ) :
    Json.decode body.decoder (bytesOf (row (new.withId id)).text) = .ok new := 
  Json.decode_of_takes (Json.takes_record (takesMembers hread id) rfl)

/-- The answer that shows a book is not read back when the text of its date is no date. -/
theorem exists_decode_row_eq_error (hread : Date.ofText? new.added.text = none) (id : ℕ) :
    ∃ reason, Json.decode body.decoder (bytesOf (row (new.withId id)).text) = .error reason ∧
      reason.fault = .custom (Date.faultMessage new.added.text) := by
  have hadded : ∀ {level}, Json.Refuses (shape.readMember level shape.start "added")
      (58 :: utf8 new.added.json.compact) (.custom (Date.faultMessage new.added.text)) :=
    Json.refuses_field find?_added rfl (refuses_addedField (Date.refuses_decoder hread))
  have hrow : Json.Refuses (shape.decoder Json.maxLevels)
      (utf8 (Json.object (new.members id)).compact)
      (.custom (Date.faultMessage new.added.text)) := Json.refuses_record hadded _
  exact Json.exists_decode_eq_error hrow

end NewBook

/-! ### Dates that survive and dates that are lost -/

/-- What a date is written as is read as a date or as none: by the converter, as a parameter, and
at the end of the path of a shelf. -/
structure Date.IsReadAs (date : Date) (found : Option Date) : Prop where
  converted : Date.compactConverter.read (Date.compactConverter.write date) = found
  parameter : ∀ {request : Request} {source : TextSource} {name : String},
    sourceText? request source name = some date.text →
      Bookshelf.parameter request source name (.host .date) =
        found.elim (.error (.parameter name source)) .ok
  shelf : ∀ {request : Request} {piece : List Char} {name : String}, request.method = reading →
    HasPieces request.path (shelfSincePath piece date.text.toList) → StandsFor piece name →
      Asks request (.shelf name found)

/-- A date is read back wherever it is sent back, in bodies as well. -/
structure Date.Survives (date : Date) : Prop extends date.IsReadAs (some date) where
  body : Json.decode Date.body.decoder (bytesOf date.json.text) = .ok date
  book : ∀ (new : NewBook) (id : ℕ), new.added = date →
    Json.decode NewBook.body.decoder (bytesOf (row (new.withId id)).text) = .ok new

/-- A date is read as none wherever it is sent back, and bodies with it are refused. -/
structure Date.IsLost (date : Date) : Prop extends date.IsReadAs none where
  body : ∃ reason, Json.decode Date.body.decoder (bytesOf date.json.text) = .error reason ∧
    reason.fault = .custom (Date.faultMessage date.text)
  book : ∀ (new : NewBook) (id : ℕ), new.added = date →
    ∃ reason, Json.decode NewBook.body.decoder (bytesOf (row (new.withId id)).text) =
      .error reason ∧ reason.fault = .custom (Date.faultMessage date.text)

theorem Date.isReadAs_ofText? (date : Date) : date.IsReadAs (ofText? date.text) where
  converted := read_text date
  parameter := parameter_date
  shelf hmethod hpath hname := read_text date ▸ .shelfSince hmethod hpath hname
    (standsFor_text date)

theorem Date.survives_of_hasShortYear {date : Date} (hyear : date.HasShortYear) :
    date.Survives := by
  have hread := ofText?_text_of_hasShortYear hyear
  refine ⟨hread ▸ isReadAs_ofText? date, Json.decode_of_takes (takes_decoder hread), ?_⟩
  rintro new id rfl
  exact NewBook.decode_row hread id

theorem Date.isLost_of_not_hasShortYear {date : Date} (hyear : ¬ date.HasShortYear) :
    date.IsLost := by
  have hread := ofText?_text_eq_none hyear
  refine ⟨hread ▸ isReadAs_ofText? date, Json.exists_decode_eq_error (refuses_decoder hread), ?_⟩
  rintro new id rfl
  exact NewBook.exists_decode_row_eq_error hread id

/-- A date of a year from 0 to 9999 survives being written, and the date of any other year is
lost. -/
theorem Date.read_back {year : ℤ} {month day : ℕ} {date : Date}
    (hdate : Date.of? year month day = some date) :
    (0 ≤ year ∧ year ≤ 9999 → date.Survives) ∧ (year < 0 ∨ 9999 < year → date.IsLost) := by
  obtain ⟨-, rfl, -, -⟩ := of?_eq_some_iff.mp hdate
  refine ⟨fun hyear => survives_of_hasShortYear hyear, fun hyear => isLost_of_not_hasShortYear ?_⟩
  rw [HasShortYear]
  omega

theorem Date.read_back_two_years :
    Date.of? 476 9 4 = some ⟨476, 9, 4, by decide⟩ ∧ Date.Survives ⟨476, 9, 4, by decide⟩ ∧
      Date.of? (-44) 3 15 = some ⟨-44, 3, 15, by decide⟩ ∧ Date.IsLost ⟨-44, 3, 15, by decide⟩ := by
  have hshort : Date.of? 476 9 4 = some ⟨476, 9, 4, by decide⟩ := rfl
  have hsigned : Date.of? (-44) 3 15 = some ⟨-44, 3, 15, by decide⟩ := rfl
  exact ⟨hshort, (Date.read_back hshort).1 (by decide), hsigned,
    (Date.read_back hsigned).2 (by decide)⟩

/-- The text of a date after the year 9999 is no date. -/
theorem Date.read_write_long_year :
    Date.of? 12345 6 15 = some ⟨12345, 6, 15, by decide⟩ ∧
      Date.compactConverter.read (Date.compactConverter.write ⟨12345, 6, 15, by decide⟩) =
        none := by
  decide +kernel

end MarkedRoutes.Bookshelf
