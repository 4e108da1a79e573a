import RecordSchema.Calendar.Digits

/-!
# Dates

A date of the Gregorian calendar, which is continued without end in both directions and has a year
zero.  Dates are ordered by their day number.

* `Date.Exists`: which triples of year, month and day are dates.
* `Date.dayNumber`: the number of days since a fixed day.
* `Date.read?`, `Date.text`: the written form `YYYY-MM-DD`.
-/

namespace RecordSchema.Calendar

/-- A leap year is divisible by 4 but not by 100, or by 400. -/
def isLeapYear (year : Int) : Bool :=
  (year % 4 == 0 && year % 100 != 0) || year % 400 == 0

/-- The number of days of a month. -/
def daysInMonth (year : Int) (month : Nat) : Nat :=
  match month with
  | 2 => if isLeapYear year then 29 else 28
  | 4 | 6 | 9 | 11 => 30
  | _ => 31

/-- The number of days of a year before a month. -/
def daysBeforeMonth (year : Int) : Nat → Nat
  | 0 => 0
  | month + 1 => daysBeforeMonth year month + if month = 0 then 0 else daysInMonth year month

/-- The number of days before a year, counted from the year one. -/
def daysBeforeYear (year : Int) : Int :=
  365 * (year - 1) + (year - 1) / 4 - (year - 1) / 100 + (year - 1) / 400

/-- The first year of the calendar. -/
def minYear : Int := -262143

/-- The last year of the calendar. -/
def maxYear : Int := 262142

/-- The triples that are dates. -/
def Date.Exists (year : Int) (month day : Nat) : Prop :=
  minYear ≤ year ∧ year ≤ maxYear ∧ 1 ≤ month ∧ month ≤ 12 ∧ 1 ≤ day ∧
    day ≤ daysInMonth year month

instance Date.decidableExists (year : Int) (month day : Nat) :
    Decidable (Date.Exists year month day) :=
  inferInstanceAs (Decidable (_ ∧ _ ∧ _ ∧ _ ∧ _ ∧ _))

/-- A calendar date. -/
structure Date where
  year : Int
  month : Nat
  day : Nat
  isDate : Date.Exists year month day
deriving DecidableEq

namespace Date

/-- The date of a triple. -/
def of? (year : Int) (month day : Nat) : Option Date :=
  if h : Exists year month day then some ⟨year, month, day, h⟩ else none

/-- The number of the day, which orders dates. -/
def dayNumber (d : Date) : Int :=
  daysBeforeYear d.year + daysBeforeMonth d.year d.month + d.day

/-! ### Written form -/

/-- The year of a date: a sign and any number of digits, or up to four digits. -/
def readYear : List Char → Scan Int
  | '-' :: cs => (number cs.length cs).map fun (n, rest) => (-(n : Int), rest)
  | '+' :: cs => (number cs.length cs).map fun (n, rest) => ((n : Int), rest)
  | cs => (number 4 cs).map fun (n, rest) => ((n : Int), rest)

/-- A date; blanks may stand before each of its numbers. -/
def readFront (cs : List Char) : Option (Date × List Char) := do
  let (year, cs) ← readYear (skipBlanks cs)
  let cs ← expect '-' cs
  let (month, cs) ← number 2 (skipBlanks cs)
  let cs ← expect '-' cs
  let (day, cs) ← number 2 (skipBlanks cs)
  let date ← of? year month day
  return (date, cs)

/-- A text that is a date and nothing else. -/
def read? (cs : List Char) : Option Date :=
  match readFront cs with
  | some (date, []) => some date
  | _ => none

/-- A year: four digits, and a sign outside of 0 to 9999. -/
def yearText (year : Int) : List Char :=
  if year < 0 then '-' :: padded 4 year.natAbs
  else if 9999 < year then '+' :: padded 4 year.natAbs
  else padded 4 year.natAbs

/-- The written form. -/
def text (d : Date) : List Char :=
  yearText d.year ++ '-' :: padded 2 d.month ++ '-' :: padded 2 d.day

end Date

end RecordSchema.Calendar
