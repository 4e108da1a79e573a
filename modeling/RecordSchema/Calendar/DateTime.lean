import RecordSchema.Calendar.Date
import RecordSchema.Calendar.TimeOfDay

/-!
# Dates with a time and an offset

A date and a time of day at an offset from universal time, in minutes.  Two of them are compared by
the instant that they denote.

* `DateTime.instant`: the instant in ticks, local time less the offset.
* `DateTime.read?`, `DateTime.text`: the written form `YYYY-MM-DDTHH:MM:SS+HH:MM`.
-/

namespace RecordSchema.Calendar

/-- The offsets that occur: less than a day in either direction. -/
def IsOffset (minutes : Int) : Prop :=
  -1440 < minutes ∧ minutes < 1440

instance decidableIsOffset (minutes : Int) : Decidable (IsOffset minutes) :=
  inferInstanceAs (Decidable (_ ∧ _))

/-- A local date and time with its offset in minutes. -/
structure DateTime where
  date : Date
  time : TimeOfDay
  offset : Int
  isOffset : IsOffset offset
deriving DecidableEq

namespace DateTime

/-- The instant, which orders these values. -/
def instant (t : DateTime) : Int :=
  t.date.dayNumber * dayTicks + t.time.ticks - t.offset * minuteTicks

/-! ### Written form -/

/-- The year, month and day, of fixed width. -/
def readDate (cs : List Char) : Option (Date × List Char) := do
  let (year, cs) ← fixed 4 cs
  let cs ← expect '-' cs
  let (month, cs) ← fixed 2 cs
  let cs ← expect '-' cs
  let (day, cs) ← fixed 2 cs
  let date ← Date.of? year month day
  return (date, cs)

/-- The hour, minute and second, of fixed width, and the fraction. -/
def readTime (cs : List Char) : Option (TimeOfDay × List Char) := do
  let (hour, cs) ← fixed 2 cs
  let cs ← expect ':' cs
  let (minute, cs) ← fixed 2 cs
  let cs ← expect ':' cs
  let (second, cs) ← fixed 2 cs
  let (nanosecond, cs) ← optionalFraction cs
  let time ← TimeOfDay.of? hour minute second nanosecond
  return (time, cs)

/-- What stands between date and time. -/
def readSeparator : List Char → Option (List Char)
  | 'T' :: cs => some cs
  | 't' :: cs => some cs
  | ' ' :: cs => some cs
  | _ => none

/-- The hours and minutes of an offset. -/
def readOffsetSize (cs : List Char) : Option (Int × List Char) := do
  let (hours, cs) ← fixed 2 cs
  let cs ← expect ':' cs
  let (minutes, cs) ← fixed 2 cs
  if minutes < 60 then return (60 * (hours : Int) + minutes, cs) else none

/-- An offset: `Z`, or a sign with hours and minutes.  The sign may be a minus sign proper. -/
def readOffset : List Char → Scan Int
  | 'Z' :: cs => some (0, cs)
  | 'z' :: cs => some (0, cs)
  | '+' :: cs => readOffsetSize cs
  | '-' :: cs => (readOffsetSize cs).map fun (n, rest) => (-n, rest)
  | '\u2212' :: cs => (readOffsetSize cs).map fun (n, rest) => (-n, rest)
  | _ => none

/-- A text that is a date with time and offset and nothing else. -/
def read? (cs : List Char) : Option DateTime := do
  let (date, cs) ← readDate cs
  let cs ← readSeparator cs
  let (time, cs) ← readTime cs
  let (offset, cs) ← readOffset cs
  if cs.isEmpty then
    if h : IsOffset offset then some ⟨date, time, offset, h⟩ else none
  else none

/-- An offset; universal time is `+00:00`. -/
def offsetText (minutes : Int) : List Char :=
  (if minutes < 0 then '-' else '+') ::
    (padded 2 (minutes.natAbs / 60) ++ ':' :: padded 2 (minutes.natAbs % 60))

/-- The written form, at the offset it was given in. -/
def text (t : DateTime) : List Char :=
  t.date.text ++ 'T' :: t.time.text ++ offsetText t.offset

end DateTime

end RecordSchema.Calendar
