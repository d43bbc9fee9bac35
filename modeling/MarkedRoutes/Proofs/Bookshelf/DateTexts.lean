import MarkedRoutes.Bookshelf.Date
import Mathlib.Tactic.IntervalCases

/-!
# Texts of dates

A text of eight digits, or of four, two and two digits between hyphens, denotes the day of the
calendar that the digits name, and nothing when there is no such day.  Exactly these texts are
read as dates, and besides them texts with hyphens in which a plus stands for the first digit of
a number.
-/

namespace MarkedRoutes.Bookshelf

open MarkedRoutes.Text

/-! ### The calendar -/

/-- Every fourth year is a leap year, but of the centuries only every fourth. -/
def IsLeapYear (year : ℤ) : Prop := 4 ∣ year ∧ (100 ∣ year → 400 ∣ year)

instance (year : ℤ) : Decidable (IsLeapYear year) :=
  inferInstanceAs (Decidable (4 ∣ year ∧ (100 ∣ year → 400 ∣ year)))

def monthLengths (year : ℤ) : List ℕ :=
  [31, if IsLeapYear year then 29 else 28, 31, 30, 31, 30, 31, 31, 30, 31, 30, 31]

def IsCalendarDay (year : ℤ) (month day : ℕ) : Prop :=
  1 ≤ month ∧ 1 ≤ day ∧ ∃ length, (monthLengths year)[month - 1]? = some length ∧ day ≤ length

theorem isLeap_iff (year : ℤ) : isLeap year = true ↔ IsLeapYear year := by
  simp only [isLeap, IsLeapYear, Bool.or_eq_true, Bool.and_eq_true, decide_eq_true_eq]
  omega

theorem getElem?_monthLengths (year : ℤ) {month : ℕ} (hfirst : 1 ≤ month) (hlast : month ≤ 12) :
    (monthLengths year)[month - 1]? = some (daysInMonth year month) := by
  interval_cases month <;> simp [monthLengths, daysInMonth, isLeap_iff]

theorem isDay_iff (year : ℤ) (month day : ℕ) :
    isDay year month day = true ↔ IsCalendarDay year month day := by
  simp only [isDay, IsCalendarDay, Bool.and_eq_true, decide_eq_true_eq]
  constructor
  · rintro ⟨⟨⟨hfirst, hlast⟩, hday⟩, hlength⟩
    exact ⟨hfirst, hday, _, getElem?_monthLengths year hfirst hlast, hlength⟩
  · rintro ⟨hfirst, hday, length, hmonth, hlength⟩
    have hlast : month ≤ 12 := by
      have hindex := (List.getElem?_eq_some_iff.mp hmonth).1
      rw [monthLengths, List.length_cons] at hindex
      simp at hindex
      omega
    rw [getElem?_monthLengths year hfirst hlast, Option.some_inj] at hmonth
    exact ⟨⟨⟨hfirst, hlast⟩, hday⟩, hmonth ▸ hlength⟩

/-! ### Numbers -/

/-- A text of `width` decimal digits writes a number. -/
structure WritesNumber (width : ℕ) (text : List Char) (number : ℕ) : Prop where
  length_eq : text.length = width
  isDigit : ∀ c ∈ text, c.isDigit = true
  number_eq : Nat.ofDigitChars 10 text 0 = number

/-- A text of `width` characters writes a number, in decimal digits alone or behind a plus. -/
inductive WritesSigned (width : ℕ) : List Char → ℕ → Prop
  | digits {text : List Char} {number : ℕ} (hdigits : WritesNumber width text number) :
      WritesSigned width text number
  | plus {text : List Char} {number : ℕ} (hdigits : WritesNumber (width - 1) text number) :
      WritesSigned width ('+' :: text) number

theorem WritesNumber.notMem {width : ℕ} {text : List Char} {number : ℕ}
    (hwrites : WritesNumber width text number) {c : Char} (hc : c.isDigit = false) : c ∉ text := by
  intro hmem
  have hdigit := hwrites.isDigit c hmem
  rw [hc] at hdigit
  cases hdigit

theorem digitsValue_eq (digits : List Char) (value : ℕ) :
    Decimal.digitsValue value digits = Nat.ofDigitChars 10 digits value := by
  rw [Decimal.digitsValue, Nat.ofDigitChars]
  simp only [Nat.mul_comm]

theorem natOfDigits?_eq_some_iff {text : List Char} {number : ℕ} :
    Decimal.natOfDigits? text = some number ↔
      text ≠ [] ∧ WritesNumber text.length text number := by
  rw [Decimal.natOfDigits?, Option.ite_none_left_eq_some, digitsValue_eq, Option.some_inj,
    Bool.or_eq_true, not_or, List.isEmpty_iff, Bool.not_eq_true', Bool.not_eq_false,
    List.all_eq_true, and_assoc]
  refine and_congr_right fun _ => ⟨fun ⟨hdigits, hnumber⟩ => ⟨rfl, hdigits, hnumber⟩, ?_⟩
  rintro ⟨-, hdigits, hnumber⟩
  exact ⟨hdigits, hnumber⟩

/-- A number of two or more places is read from digits, of which a plus may be the first. -/
theorem natOfText?_eq_some_iff {width : ℕ} (hwidth : 1 < width) {text : List Char}
    (hlength : text.length = width) {number : ℕ} :
    Decimal.natOfText? text = some number ↔ WritesSigned width text number := by
  subst hlength
  rw [Decimal.natOfText?.eq_def]
  split
  · next rest =>
      rw [natOfDigits?_eq_some_iff]
      constructor
      · rintro ⟨-, hrest⟩
        exact .plus hrest
      · rintro (hdigits | hdigits)
        · exact absurd List.mem_cons_self (hdigits.notMem rfl)
        · exact ⟨List.ne_nil_of_length_pos (Nat.lt_of_succ_lt_succ hwidth), hdigits⟩
  · next hplus =>
      rw [natOfDigits?_eq_some_iff]
      constructor
      · rintro ⟨-, hdigits⟩
        exact .digits hdigits
      · rintro (hdigits | hdigits)
        · exact ⟨List.ne_nil_of_length_pos (Nat.zero_lt_of_lt hwidth), hdigits⟩
        · exact absurd rfl (hplus _)

theorem WritesSigned.length_eq {width : ℕ} (hwidth : 1 < width) {text : List Char} {number : ℕ}
    (hsigned : WritesSigned width text number) : text.length = width := by
  cases hsigned with
  | digits hdigits => exact hdigits.length_eq
  | plus hdigits =>
      rw [List.length_cons, hdigits.length_eq]
      omega

theorem WritesSigned.hyphen_notMem {width : ℕ} {text : List Char} {number : ℕ}
    (hsigned : WritesSigned width text number) : '-' ∉ text := by
  cases hsigned with
  | digits hdigits => exact hdigits.notMem rfl
  | plus hdigits =>
      have hrest : '-' ∉ _ := hdigits.notMem rfl
      simp [hrest]

theorem WritesSigned.writesNumber {width : ℕ} {text : List Char} {number : ℕ}
    (hsigned : WritesSigned width text number) (hplus : '+' ∉ text) :
    WritesNumber width text number := by
  cases hsigned with
  | digits hdigits => exact hdigits
  | plus hdigits => exact absurd List.mem_cons_self hplus

/-! ### Dates -/

/-- A year, a month and a day between hyphens, each number written in a given way. -/
inductive IsHyphenated (Writes : ℕ → List Char → ℕ → Prop) : List Char → ℕ → ℕ → ℕ → Prop
  | intro {yearText monthText dayText : List Char} {year month day : ℕ}
      (hyear : Writes 4 yearText year) (hmonth : Writes 2 monthText month)
      (hday : Writes 2 dayText day) :
      IsHyphenated Writes (yearText ++ '-' :: (monthText ++ '-' :: dayText)) year month day

/-- The digits of a year, a month and a day. -/
inductive IsCompact : List Char → ℕ → ℕ → ℕ → Prop
  | intro {yearText monthText dayText : List Char} {year month day : ℕ}
      (hyear : WritesNumber 4 yearText year) (hmonth : WritesNumber 2 monthText month)
      (hday : WritesNumber 2 dayText day) :
      IsCompact (yearText ++ (monthText ++ dayText)) year month day

/-- Four, two and two digits, between hyphens or together. -/
def IsDateText (text : List Char) (year month day : ℕ) : Prop :=
  IsHyphenated WritesNumber text year month day ∨ IsCompact text year month day

/-- Numbers between hyphens, one of them with a plus for its first digit. -/
def IsSignedDateText (text : List Char) (year month day : ℕ) : Prop :=
  '+' ∈ text ∧ IsHyphenated WritesSigned text year month day

/-- A text of some form names a day of the calendar, and a date is this day. -/
def Denotes (form : List Char → ℕ → ℕ → ℕ → Prop) (text : List Char) (date : Date) : Prop :=
  ∃ year month day : ℕ, form text year month day ∧ IsCalendarDay year month day ∧
    date.year = year ∧ date.month = month ∧ date.day = day

theorem Date.of?_eq_some_iff {year : ℤ} {month day : ℕ} {date : Date} :
    Date.of? year month day = some date ↔
      IsCalendarDay year month day ∧ date.year = year ∧ date.month = month ∧ date.day = day := by
  rw [← isDay_iff, Date.of?]
  constructor
  · intro hdate
    split_ifs at hdate with hvalid
    cases hdate
    exact ⟨hvalid, rfl, rfl, rfl⟩
  · rintro ⟨hvalid, rfl, rfl, rfl⟩
    rw [dif_pos hvalid]

theorem Date.ofPieces?_eq_some_iff {yearText monthText dayText : List Char} {date : Date} :
    Date.ofPieces? yearText monthText dayText = some date ↔
      ∃ year month day : ℕ, Decimal.natOfText? yearText = some year ∧
        Decimal.natOfText? monthText = some month ∧ Decimal.natOfText? dayText = some day ∧
        IsCalendarDay year month day ∧
        date.year = year ∧ date.month = month ∧ date.day = day := by
  simp only [Date.ofPieces?, Option.bind_eq_bind, Option.bind_eq_some_iff, Date.of?_eq_some_iff]
  constructor
  · rintro ⟨year, hyear, month, hmonth, day, hday, hdate⟩
    exact ⟨year, month, day, hyear, hmonth, hday, hdate⟩
  · rintro ⟨year, month, day, hyear, hmonth, hday, hdate⟩
    exact ⟨year, hyear, month, hmonth, day, hday, hdate⟩

/-- Pieces of four, two and two characters give a date just when they write its numbers. -/
theorem Date.ofPieces?_eq_some_iff_writes {yearText monthText dayText : List Char} {date : Date}
    (hyear : yearText.length = 4) (hmonth : monthText.length = 2) (hday : dayText.length = 2) :
    Date.ofPieces? yearText monthText dayText = some date ↔
      ∃ year month day : ℕ, WritesSigned 4 yearText year ∧ WritesSigned 2 monthText month ∧
        WritesSigned 2 dayText day ∧ IsCalendarDay year month day ∧
        date.year = year ∧ date.month = month ∧ date.day = day := by
  simp only [ofPieces?_eq_some_iff, natOfText?_eq_some_iff (by decide) hyear,
    natOfText?_eq_some_iff (by decide) hmonth, natOfText?_eq_some_iff (by decide) hday]

theorem Date.ofText?_eq_some_iff {text : String} {date : Date} :
    Date.ofText? text = some date ↔ Denotes (IsHyphenated WritesSigned) text.toList date := by
  rw [Date.ofText?]
  constructor
  · intro hdate
    split at hdate
    · next yearText monthText dayText hpieces =>
        split_ifs at hdate with hlengths
        obtain ⟨hyear, hmonth, hday⟩ := hlengths
        obtain ⟨year, month, day, hwrites⟩ :=
          (ofPieces?_eq_some_iff_writes hyear hmonth hday).mp hdate
        have htext := join_splitOnChar '-' text.toList
        rw [hpieces] at htext
        rw [← htext]
        exact ⟨year, month, day, .intro hwrites.1 hwrites.2.1 hwrites.2.2.1, hwrites.2.2.2⟩
    · cases hdate
  · rintro ⟨year, month, day, hform, hnames⟩
    generalize text.toList = written at hform
    obtain ⟨hyear, hmonth, hday⟩ := hform
    rw [splitOnChar_append hyear.hyphen_notMem, splitOnChar_append hmonth.hyphen_notMem,
      splitOnChar_of_notMem hday.hyphen_notMem]
    have hyearLength := hyear.length_eq (by decide)
    have hmonthLength := hmonth.length_eq (by decide)
    have hdayLength := hday.length_eq (by decide)
    dsimp only
    rw [if_pos ⟨hyearLength, hmonthLength, hdayLength⟩,
      ofPieces?_eq_some_iff_writes hyearLength hmonthLength hdayLength]
    exact ⟨year, month, day, hyear, hmonth, hday, hnames⟩

theorem IsCompact.length_eq {text : List Char} {year month day : ℕ}
    (hcompact : IsCompact text year month day) : text.length = 8 := by
  obtain ⟨hyear, hmonth, hday⟩ := hcompact
  rw [List.length_append, List.length_append, hyear.length_eq, hmonth.length_eq, hday.length_eq]

theorem IsCompact.isDigit {text : List Char} {year month day : ℕ}
    (hcompact : IsCompact text year month day) : ∀ c ∈ text, c.isDigit = true := by
  obtain ⟨hyear, hmonth, hday⟩ := hcompact
  intro c hmem
  rw [List.mem_append, List.mem_append] at hmem
  rcases hmem with hmem | hmem | hmem
  · exact hyear.isDigit c hmem
  · exact hmonth.isDigit c hmem
  · exact hday.isDigit c hmem

/-- The first four, the next two and the last characters of three such texts are the texts. -/
theorem fields_append {yearText monthText dayText : List Char} (hyear : yearText.length = 4)
    (hmonth : monthText.length = 2) :
    (yearText ++ (monthText ++ dayText)).take 4 = yearText ∧
      ((yearText ++ (monthText ++ dayText)).drop 4).take 2 = monthText ∧
      (yearText ++ (monthText ++ dayText)).drop 6 = dayText := by
  refine ⟨List.take_left' hyear, ?_, ?_⟩
  · rw [List.drop_left' hyear, List.take_left' hmonth]
  · rw [← List.append_assoc]
    exact List.drop_left' (by rw [List.length_append, hyear, hmonth])

/-- A text is its first four characters, the next two and the rest. -/
theorem append_fields (text : List Char) :
    text.take 4 ++ ((text.drop 4).take 2 ++ text.drop 6) = text := by
  have hrest : (text.drop 4).take 2 ++ (text.drop 4).drop 2 = text.drop 4 :=
    List.take_append_drop 2 (text.drop 4)
  rw [List.drop_drop] at hrest
  rw [hrest, List.take_append_drop]

theorem Date.ofDigits?_eq_some_iff {text : List Char} {date : Date} :
    Date.ofDigits? text = some date ↔ Denotes IsCompact text date := by
  rw [Date.ofDigits?, Option.ite_none_right_eq_some, List.all_eq_true]
  constructor
  · rintro ⟨⟨hlength, hdigits⟩, hdate⟩
    have hplus : '+' ∉ text := by
      intro hmem
      cases hdigits _ hmem
    obtain ⟨year, month, day, hyear, hmonth, hday, hnames⟩ :=
      (ofPieces?_eq_some_iff_writes (by simp [hlength]) (by simp [hlength])
        (by simp [hlength])).mp hdate
    have hcompact : IsCompact (text.take 4 ++ ((text.drop 4).take 2 ++ text.drop 6))
        year month day :=
      .intro (hyear.writesNumber fun hmem => hplus (List.mem_of_mem_take hmem))
        (hmonth.writesNumber fun hmem => hplus (List.mem_of_mem_drop (List.mem_of_mem_take hmem)))
        (hday.writesNumber fun hmem => hplus (List.mem_of_mem_drop hmem))
    rw [append_fields] at hcompact
    exact ⟨year, month, day, hcompact, hnames⟩
  · rintro ⟨year, month, day, hcompact, hnames⟩
    refine ⟨⟨hcompact.length_eq, hcompact.isDigit⟩, ?_⟩
    obtain ⟨hyear, hmonth, hday⟩ := hcompact
    obtain ⟨hfirst, hsecond, hthird⟩ := fields_append hyear.length_eq hmonth.length_eq
    rw [hfirst, hsecond, hthird,
      ofPieces?_eq_some_iff_writes hyear.length_eq hmonth.length_eq hday.length_eq]
    exact ⟨year, month, day, .digits hyear, .digits hmonth, .digits hday, hnames⟩

/-! ### What is read as a date -/

theorem IsHyphenated.mono {Writes Writes' : ℕ → List Char → ℕ → Prop}
    (himp : ∀ {width text number}, Writes width text number → Writes' width text number)
    {text : List Char} {year month day : ℕ} (hform : IsHyphenated Writes text year month day) :
    IsHyphenated Writes' text year month day := by
  obtain ⟨hyear, hmonth, hday⟩ := hform
  exact .intro (himp hyear) (himp hmonth) (himp hday)

/-- Without a plus the numbers between the hyphens are digits alone. -/
theorem IsHyphenated.writesNumber {text : List Char} {year month day : ℕ}
    (hform : IsHyphenated WritesSigned text year month day) (hplus : '+' ∉ text) :
    IsHyphenated WritesNumber text year month day := by
  obtain ⟨hyear, hmonth, hday⟩ := hform
  simp only [List.mem_append, List.mem_cons, not_or] at hplus
  obtain ⟨hyearPlus, -, hmonthPlus, -, hdayPlus⟩ := hplus
  exact .intro (hyear.writesNumber hyearPlus) (hmonth.writesNumber hmonthPlus)
    (hday.writesNumber hdayPlus)

theorem IsHyphenated.hyphen_mem {Writes : ℕ → List Char → ℕ → Prop} {text : List Char}
    {year month day : ℕ} (hform : IsHyphenated Writes text year month day) : '-' ∈ text := by
  obtain ⟨hyear, hmonth, hday⟩ := hform
  exact List.mem_append_right _ List.mem_cons_self

theorem IsDateText.plus_notMem {text : List Char} {year month day : ℕ}
    (hform : IsDateText text year month day) : '+' ∉ text := by
  rcases hform with ⟨hyear, hmonth, hday⟩ | hcompact
  · simp [hyear.notMem (c := '+') rfl, hmonth.notMem (c := '+') rfl, hday.notMem (c := '+') rfl]
  · intro hmem
    cases hcompact.isDigit _ hmem

/-- The numbers between the hyphens are written in digits, or there is a plus among them. -/
theorem isHyphenated_writesSigned_iff {text : List Char} {year month day : ℕ} :
    IsHyphenated WritesSigned text year month day ↔
      IsHyphenated WritesNumber text year month day ∨ IsSignedDateText text year month day := by
  constructor
  · intro hform
    by_cases hplus : '+' ∈ text
    · exact .inr ⟨hplus, hform⟩
    · exact .inl (hform.writesNumber hplus)
  · rintro (hform | ⟨-, hform⟩)
    · exact hform.mono .digits
    · exact hform

/-- Digits together are not numbers between hyphens, so the first way of reading fails on
them. -/
theorem Date.ofText?_eq_none {text : String} {year month day : ℕ}
    (hcompact : IsCompact text.toList year month day) : Date.ofText? text = none := by
  rw [Option.eq_none_iff_forall_ne_some]
  intro date hdate
  obtain ⟨_, _, _, hform, -⟩ := ofText?_eq_some_iff.mp hdate
  cases hcompact.isDigit _ hform.hyphen_mem

theorem Date.read_eq_some_iff {text : String} {date : Date} :
    Date.compactConverter.read text = some date ↔
      Denotes (IsHyphenated WritesSigned) text.toList date ∨
        Denotes IsCompact text.toList date := by
  simp only [Date.compactConverter, Option.orElse_eq_or, Option.or_eq_some_iff,
    ofText?_eq_some_iff, ofDigits?_eq_some_iff]
  refine or_congr_right ⟨And.right, fun hdate => ⟨?_, hdate⟩⟩
  obtain ⟨year, month, day, hcompact, -⟩ := hdate
  exact ofText?_eq_none hcompact

/-- The texts read as a date are those that write a day of the calendar in four, two and two
digits, between hyphens or together, and those that do so between hyphens with a plus for the
first digit of a number; no text of the first kind holds a plus.  The date is the day that the
text writes. -/
theorem Date.compactConverter_read_eq_some_iff (text : String) (date : Date) :
    (Date.compactConverter.read text = some date ↔
      Denotes IsDateText text.toList date ∨ Denotes IsSignedDateText text.toList date) ∧
    ¬ (Denotes IsDateText text.toList date ∧ '+' ∈ text.toList) := by
  constructor
  · rw [read_eq_some_iff]
    simp only [Denotes, isHyphenated_writesSigned_iff, IsDateText, or_and_right, exists_or]
    exact or_right_comm
  · rintro ⟨⟨year, month, day, hform, -⟩, hplus⟩
    exact hform.plus_notMem hplus

/-- Signs of the month and of the day are read over, though the text is not four, two and two
digits. -/
theorem Date.compactConverter_read_signed :
    Date.compactConverter.read "2021-+1-+2" = some ⟨2021, 1, 2, by decide⟩ ∧
      ¬ ∃ year month day, IsDateText "2021-+1-+2".toList year month day := by
  refine ⟨by decide +kernel, ?_⟩
  rintro ⟨year, month, day, hform⟩
  exact hform.plus_notMem (by decide)

end MarkedRoutes.Bookshelf
