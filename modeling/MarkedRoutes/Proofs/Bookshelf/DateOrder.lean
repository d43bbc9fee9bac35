import MarkedRoutes.Proofs.Bookshelf.DateTexts
import Mathlib.Algebra.Order.BigOperators.Group.List
import Mathlib.Data.Prod.Lex
import Mathlib.Data.Set.Card
import Mathlib.Order.Interval.Finset.Nat

/-!
# The order of dates

A year is its months laid end to end.  The number of a day in its year is one more than the
number of days before it, the days of a year have the numbers from one up to the length of the
year, and a date comes before another just when its year does or, within a year, its number.
-/

namespace MarkedRoutes.Bookshelf

/-! ### Lengths laid end to end -/

/-- What ends with one length ends before a later one begins. -/
theorem sum_take_add_le {lengths : List ℕ} {first second length : ℕ}
    (hlength : lengths[first]? = some length) (hlt : first < second) :
    (lengths.take first).sum + length ≤ (lengths.take second).sum := by
  have hnext : (lengths.take (first + 1)).sum = (lengths.take first).sum + length := by
    rw [List.take_add_one, hlength, Option.toList_some, List.sum_append, List.sum_singleton]
  rw [← hnext]
  exact lengths.monotone_sum_take hlt

/-- Every position falls into one of the lengths. -/
theorem exists_sum_take_lt {lengths : List ℕ} {position : ℕ} (hfirst : 0 < position)
    (hlast : position ≤ lengths.sum) :
    ∃ index length, lengths[index]? = some length ∧ (lengths.take index).sum < position ∧
      position ≤ (lengths.take index).sum + length := by
  induction lengths generalizing position with
  | nil => exact absurd hlast (Nat.not_le_of_gt hfirst)
  | cons length lengths ih =>
      rw [List.sum_cons] at hlast
      rcases Nat.lt_or_ge length position with hlater | hhere
      · obtain ⟨index, found, hfound, hbefore, hwithin⟩ :=
          ih (Nat.sub_pos_of_lt hlater) (Nat.sub_le_iff_le_add'.mpr hlast)
        refine ⟨index + 1, found, hfound, ?_, ?_⟩ <;> rw [List.take_succ_cons, List.sum_cons] <;>
          omega
      · exact ⟨0, length, rfl, hfirst, by simpa using hhere⟩

namespace Date

/-! ### The number of a day -/

/-- The days before a date's month and the day within it. -/
theorem dayOfYear_eq (date : Date) :
    date.dayOfYear = ((monthLengths date.year).take (date.month - 1)).sum + date.day := by
  obtain ⟨year, month, day, hvalid⟩ := date
  simp only [isDay, Bool.and_eq_true, decide_eq_true_eq] at hvalid
  obtain ⟨⟨⟨hfirst, hlast⟩, -⟩, -⟩ := hvalid
  by_cases hleap : IsLeapYear year <;> interval_cases month <;>
    simp [dayOfYear, daysBefore, monthLengths, isLeap_iff, hleap]

/-- A date lies within its month. -/
theorem exists_monthLength (date : Date) :
    1 ≤ date.month ∧ 1 ≤ date.day ∧ ∃ length,
      (monthLengths date.year)[date.month - 1]? = some length ∧ date.day ≤ length :=
  (isDay_iff date.year date.month date.day).mp date.valid

theorem sum_monthLengths (year : ℤ) :
    (monthLengths year).sum = if IsLeapYear year then 366 else 365 := by
  rw [monthLengths]
  split <;> rfl

/-- The numbers of the days of a year are those up to the length of the year. -/
theorem image_dayOfYear (year : ℤ) :
    dayOfYear '' {date | date.year = year} = Set.Icc 1 (monthLengths year).sum := by
  ext number
  rw [Set.mem_image, Set.mem_Icc]
  constructor
  · rintro ⟨date, rfl, rfl⟩
    obtain ⟨-, hday, length, hlength, hwithin⟩ := date.exists_monthLength
    have hindex := (List.getElem?_eq_some_iff.mp hlength).1
    have hend := sum_take_add_le hlength hindex
    rw [List.take_length] at hend
    rw [dayOfYear_eq]
    omega
  · rintro ⟨hfirst, hlast⟩
    obtain ⟨index, length, hlength, hbefore, hwithin⟩ := exists_sum_take_lt hfirst hlast
    have hday : IsCalendarDay year (index + 1)
        (number - ((monthLengths year).take index).sum) :=
      ⟨Nat.succ_pos index, Nat.sub_pos_of_lt hbefore, length, hlength,
        Nat.sub_le_iff_le_add'.mpr hwithin⟩
    refine ⟨⟨year, index + 1, _, (isDay_iff _ _ _).mpr hday⟩, rfl, ?_⟩
    rw [dayOfYear_eq]
    exact Nat.add_sub_of_le hbefore.le

/-! ### The order -/

/-- A date as its year, month and day, which are compared in this order. -/
def key (date : Date) : Lex (ℤ × Lex (ℕ × ℕ)) :=
  toLex (date.year, toLex (date.month, date.day))

theorem key_injective : Function.Injective key := by
  rintro ⟨year, month, day, hvalid⟩ ⟨other, otherMonth, otherDay, hother⟩ hkey
  simpa [key] using hkey

theorem isUpTo_iff (first second : Date) :
    first.isUpTo second = true ↔ first.key ≤ second.key := by
  simp [isUpTo, key, Prod.Lex.toLex_le_toLex]

/-- A date as its year and the number of its day. -/
def ordinal (date : Date) : Lex (ℤ × ℕ) := toLex (date.year, date.dayOfYear)

/-- A later month of a year has the greater numbers, and so has a later day of a month. -/
theorem dayOfYear_lt {first second : Date} (hyear : first.year = second.year)
    (hlater : first.month < second.month ∨
      first.month = second.month ∧ first.day < second.day) :
    first.dayOfYear < second.dayOfYear := by
  rw [dayOfYear_eq, dayOfYear_eq, hyear]
  rcases hlater with hmonth | ⟨hmonth, hday⟩
  · obtain ⟨hfirst, -, length, hlength, hwithin⟩ := first.exists_monthLength
    have hday := second.exists_monthLength.2.1
    rw [hyear] at hlength
    have hindex : first.month - 1 < second.month - 1 := by omega
    have hends := sum_take_add_le hlength hindex
    omega
  · rw [hmonth]
    omega

theorem ordinal_lt {first second : Date} (hbefore : first.key < second.key) :
    first.ordinal < second.ordinal := by
  simp only [key, Prod.Lex.toLex_lt_toLex] at hbefore
  rw [ordinal, ordinal, Prod.Lex.toLex_lt_toLex]
  exact hbefore.imp_right fun ⟨hyear, hlater⟩ => ⟨hyear, dayOfYear_lt hyear hlater⟩

theorem key_lt_iff (first second : Date) :
    first.key < second.key ↔ first.ordinal < second.ordinal := by
  refine ⟨ordinal_lt, fun hordinal => ?_⟩
  rcases lt_trichotomy first.key second.key with hbefore | hsame | hafter
  · exact hbefore
  · rw [key_injective hsame] at hordinal
    exact absurd hordinal (lt_irrefl _)
  · exact absurd hordinal (lt_asymm (ordinal_lt hafter))

/-- Within a year dates with the same number are the same. -/
theorem injOn_dayOfYear (year : ℤ) : Set.InjOn dayOfYear {date | date.year = year} := by
  rintro first rfl second hyear hnumber
  have hordinal : first.ordinal = second.ordinal := by rw [ordinal, ordinal, hnumber, hyear]
  apply key_injective
  rcases lt_trichotomy first.key second.key with hbefore | hsame | hafter
  · exact absurd hordinal (ordinal_lt hbefore).ne
  · exact hsame
  · exact absurd hordinal (ordinal_lt hafter).ne'

theorem key_le_iff (first second : Date) :
    first.key ≤ second.key ↔ first.ordinal ≤ second.ordinal := by
  rw [← not_lt, ← not_lt, key_lt_iff]

/-- The days before a date in its year have the lower numbers. -/
theorem image_dayOfYear_before (date : Date) :
    dayOfYear '' {other | other.year = date.year ∧ other.key < date.key} =
      Set.Ico 1 date.dayOfYear := by
  have hbefore : ∀ other : Date, other.year = date.year →
      (other.key < date.key ↔ other.dayOfYear < date.dayOfYear) := by
    intro other hyear
    simp [key_lt_iff, ordinal, Prod.Lex.toLex_lt_toLex, hyear]
  have hnumbers : ∀ number,
      (∃ other : Date, other.year = date.year ∧ other.dayOfYear = number) ↔
        1 ≤ number ∧ number ≤ (monthLengths date.year).sum :=
    Set.ext_iff.mp (image_dayOfYear date.year)
  have hlast := ((hnumbers date.dayOfYear).mp ⟨date, rfl, rfl⟩).2
  ext number
  constructor
  · rintro ⟨other, ⟨hyear, hlt⟩, rfl⟩
    exact ⟨((hnumbers other.dayOfYear).mp ⟨other, hyear, rfl⟩).1, (hbefore other hyear).mp hlt⟩
  · rintro ⟨hfirst, hlt⟩
    obtain ⟨other, hyear, rfl⟩ := (hnumbers number).mpr ⟨hfirst, hlt.le.trans hlast⟩
    exact ⟨other, ⟨hyear, (hbefore other hyear).mpr hlt⟩, rfl⟩

/-- The number of a day is one more than the number of the days of its year before it. -/
theorem encard_before_add_one (date : Date) :
    {other : Date | other.year = date.year ∧ other.key < date.key}.encard + 1 =
      date.dayOfYear := by
  have hfirst : 1 ≤ date.dayOfYear := by
    obtain ⟨-, hday, -⟩ := date.exists_monthLength
    rw [dayOfYear_eq]
    exact Nat.le_add_left_of_le hday
  have hinjective : Set.InjOn dayOfYear
      {other | other.year = date.year ∧ other.key < date.key} :=
    (injOn_dayOfYear date.year).mono fun other hother => hother.1
  rw [← hinjective.encard_image, image_dayOfYear_before, ← Finset.coe_Ico,
    Set.encard_coe_eq_coe_finsetCard, Nat.card_Ico]
  exact_mod_cast Nat.sub_add_cancel hfirst

/-- The number of a date in its year is one more than the number of dates of the year before it,
the numbers of a year's dates are those from one up to its length, and dates are ordered as their
years and numbers are. -/
theorem dayOfYear_counts :
    (∀ date : Date, {other : Date | other.year = date.year ∧ other.key < date.key}.encard + 1 =
      date.dayOfYear) ∧
    (∀ year, dayOfYear '' {date | date.year = year} =
      Set.Icc 1 (if IsLeapYear year then 366 else 365)) ∧
    ∀ first second : Date,
      (first.key < second.key ↔ first.ordinal < second.ordinal) ∧
      (first.isUpTo second = true ↔ first.ordinal ≤ second.ordinal) := by
  refine ⟨encard_before_add_one, fun year => ?_, fun first second => ⟨key_lt_iff first second, ?_⟩⟩
  · rw [image_dayOfYear, sum_monthLengths]
  · rw [isUpTo_iff, key_le_iff]

example : (⟨-4, 12, 31, by decide⟩ : Date).dayOfYear = 366 := by decide

end Date

end MarkedRoutes.Bookshelf
