import MarkedRoutes.Json.Decoding
import MarkedRoutes.Serving.Converter

/-!
# Dates

A date is a day of the proleptic Gregorian calendar.  It is written as year,
month and day between hyphens; the year is padded to four places, its sign
included.  Reading takes four, two and two places, each a number with an
optional plus.
-/

namespace MarkedRoutes.Bookshelf

open MarkedRoutes.Serving

def isLeap (year : Int) : Bool := (year % 4 = 0 && year % 100 ≠ 0) || year % 400 = 0

def daysInMonth (year : Int) (month : Nat) : Nat :=
  if month = 2 then (if isLeap year then 29 else 28)
  else if month = 4 ∨ month = 6 ∨ month = 9 ∨ month = 11 then 30
  else 31

/-- Whether a year, a month and a day name a day of the calendar. -/
def isDay (year : Int) (month day : Nat) : Bool :=
  1 ≤ month && month ≤ 12 && 1 ≤ day && day ≤ daysInMonth year month

/-- A date. -/
structure Date where
  year : Int
  month : Nat
  day : Nat
  valid : isDay year month day = true
  deriving DecidableEq, Repr

namespace Date

/-- The date of a year, a month and a day, if there is one. -/
def of? (year : Int) (month day : Nat) : Option Date :=
  if valid : isDay year month day = true then some ⟨year, month, day, valid⟩ else none

/-- The number of days before each month of a common year. -/
def daysBefore : List Nat := [0, 31, 59, 90, 120, 151, 181, 212, 243, 273, 304, 334]

/-- The number of the date's day in its year, from one. -/
def dayOfYear (date : Date) : Nat :=
  daysBefore.getD (date.month - 1) 0 +
    (if 2 < date.month && isLeap date.year then 1 else 0) + date.day

/-- Whether a date is not after another. -/
def isUpTo (first second : Date) : Bool :=
  first.year < second.year ||
    (first.year = second.year &&
      (first.month < second.month ||
        (first.month = second.month && first.day ≤ second.day)))

/-- Digits with zeros in front up to a width. -/
def padded (width : Nat) (digits : List Char) : List Char :=
  List.replicate (width - digits.length) '0' ++ digits

def yearText (year : Int) : List Char :=
  if year < 0 then '-' :: padded 3 (Decimal.digitChars year.natAbs)
  else padded 4 (Decimal.digitChars year.toNat)

def text (date : Date) : String :=
  String.ofList (yearText date.year ++ '-' :: padded 2 (Decimal.digitChars date.month) ++
    '-' :: padded 2 (Decimal.digitChars date.day))

def ofPieces? (year month day : List Char) : Option Date := do
  let year ← Decimal.natOfText? year
  let month ← Decimal.natOfText? month
  let day ← Decimal.natOfText? day
  of? year month day

/-- The date that a text writes with hyphens.  The lengths count characters; lengths in bytes
let the same texts pass, since pieces of other characters than digits and a sign are no
numbers. -/
def ofText? (text : String) : Option Date :=
  match Text.splitOnChar '-' text.toList with
  | [year, month, day] =>
    if year.length = 4 ∧ month.length = 2 ∧ day.length = 2 then ofPieces? year month day
    else none
  | _ => none

/-- The date that eight digits write. -/
def ofDigits? (text : List Char) : Option Date :=
  if text.length = 8 ∧ text.all Decimal.isDigit then
    ofPieces? (text.take 4) ((text.drop 4).take 2) (text.drop 6)
  else none

def converter : Converter Date := ⟨ofText?, text⟩

/-- A converter of dates that also reads eight digits. -/
def compactConverter : Converter Date where
  read written := (ofText? written).orElse fun () => ofDigits? written.toList
  write := text

/-- What is said about a text that is no date. -/
def faultMessage (written : String) : String := "`" ++ written ++ "` is not a YYYY-MM-DD date"

def decoder : Json.Decoder Date := fun level cursor => do
  let (written, cursor) ← Json.stringDecoder level cursor
  match ofText? written with
  | some date => .ok (date, cursor)
  | none => cursor.failUnplaced (.custom (faultMessage written))

def json (date : Date) : Json := .string date.text

end Date

end MarkedRoutes.Bookshelf
