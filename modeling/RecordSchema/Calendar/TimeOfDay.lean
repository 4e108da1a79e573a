import RecordSchema.Calendar.Digits

/-!
# Times of day

A time of day counts nanoseconds, and every minute has room for a leap second: second 60 comes
after `:59.999999999` and before the next minute.  So a minute has 61 seconds of ticks.

* `TimeOfDay.ticks`: the place of a time in its day, which orders times.
* `TimeOfDay.read?`, `TimeOfDay.text`: the written form `HH:MM:SS` with an optional fraction.
-/

namespace RecordSchema.Calendar

/-- Nanoseconds in a second. -/
def secondTicks : Nat := 1000000000

/-- Ticks in a minute, the leap second included. -/
def minuteTicks : Nat := 61 * secondTicks

/-- Ticks in a day. -/
def dayTicks : Nat := 1440 * minuteTicks

/-- The quadruples that are times of day. -/
def TimeOfDay.Exists (hour minute second nanosecond : Nat) : Prop :=
  hour ≤ 23 ∧ minute ≤ 59 ∧ second ≤ 60 ∧ nanosecond < secondTicks

instance TimeOfDay.decidableExists (hour minute second nanosecond : Nat) :
    Decidable (TimeOfDay.Exists hour minute second nanosecond) :=
  inferInstanceAs (Decidable (_ ∧ _ ∧ _ ∧ _))

/-- A time of day. -/
structure TimeOfDay where
  hour : Nat
  minute : Nat
  second : Nat
  nanosecond : Nat
  isTime : TimeOfDay.Exists hour minute second nanosecond
deriving DecidableEq

namespace TimeOfDay

/-- The time of a quadruple. -/
def of? (hour minute second nanosecond : Nat) : Option TimeOfDay :=
  if h : Exists hour minute second nanosecond then some ⟨hour, minute, second, nanosecond, h⟩
  else none

/-- The ticks since midnight. -/
def ticks (t : TimeOfDay) : Nat :=
  (60 * t.hour + t.minute) * minuteTicks + t.second * secondTicks + t.nanosecond

/-! ### Written form -/

/-- A text that is a time and nothing else; blanks may stand before each of its first three
numbers. -/
def read? (cs : List Char) : Option TimeOfDay := do
  let (hour, cs) ← number 2 (skipBlanks cs)
  let cs ← expect ':' cs
  let (minute, cs) ← number 2 (skipBlanks cs)
  let cs ← expect ':' cs
  let (second, cs) ← number 2 (skipBlanks cs)
  let (nanosecond, cs) ← optionalFraction cs
  if cs.isEmpty then of? hour minute second nanosecond else none

/-- A fraction in three, six or nine digits, the fewest that are exact; none for zero. -/
def fractionText (nanosecond : Nat) : List Char :=
  if nanosecond = 0 then []
  else if nanosecond % 1000000 = 0 then '.' :: padded 3 (nanosecond / 1000000)
  else if nanosecond % 1000 = 0 then '.' :: padded 6 (nanosecond / 1000)
  else '.' :: padded 9 nanosecond

/-- The written form. -/
def text (t : TimeOfDay) : List Char :=
  padded 2 t.hour ++ ':' :: padded 2 t.minute ++ ':' :: padded 2 t.second ++
    fractionText t.nanosecond

end TimeOfDay

end RecordSchema.Calendar
