import RecordSchema.Calendar.DateTime
import RecordSchema.Proofs.Calendar.Days

/-!
# Local clocks and instants

The same instant is shown by different clocks.  Going one minute of offset to the east, the clock
shows one minute more, over the hour, the day, the month and the year, and the seconds are the
same, leap seconds included.  Clocks that are joined by such steps show the same instant.  This is
said without any count of ticks, and the count agrees with it: the instants of two clocks are equal
if the clocks are joined, and the lesser one is that of a clock that is joined to an earlier one in
the place of the other.

* `DateTime.East`: a clock and the one that is a minute of offset further east.
* `DateTime.SameInstant`, `DateTime.sameInstant_iff`: clocks that show the same instant.
* `DateTime.Earlier`, `DateTime.instant_lt_iff`: clocks of which one shows an earlier instant.
-/

namespace RecordSchema.Calendar

/-! ### Times of day -/

namespace TimeOfDay

variable {t u : TimeOfDay}

theorem ext_numbers (hhour : t.hour = u.hour) (hminute : t.minute = u.minute)
    (hsecond : t.second = u.second) (hnanosecond : t.nanosecond = u.nanosecond) : t = u := by
  cases t
  cases u
  cases hhour
  cases hminute
  cases hsecond
  cases hnanosecond
  rfl

/-- Earlier on the clock. -/
def Before (t u : TimeOfDay) : Prop :=
  t.hour < u.hour ∨ t.hour = u.hour ∧ (t.minute < u.minute ∨ t.minute = u.minute ∧
    (t.second < u.second ∨ t.second = u.second ∧ t.nanosecond < u.nanosecond))

/-- The ticks of the second that is shown. -/
def secondPart (t : TimeOfDay) : Nat :=
  t.second * secondTicks + t.nanosecond

/-- The minutes since midnight. -/
def minuteOfDay (t : TimeOfDay) : Nat :=
  60 * t.hour + t.minute

theorem ticks_eq (t : TimeOfDay) : t.ticks = t.minuteOfDay * minuteTicks + t.secondPart := by
  rw [ticks, minuteOfDay, secondPart, Nat.add_assoc]

/-- **A second lies within its minute**, be it a leap second. -/
theorem secondPart_lt (t : TimeOfDay) : t.secondPart < minuteTicks := by
  obtain ⟨-, -, hsecond, hnano⟩ := t.isTime
  have hmul : t.second * secondTicks ≤ 60 * secondTicks := Nat.mul_le_mul_right _ hsecond
  rw [secondPart, minuteTicks]
  omega

theorem minuteOfDay_lt (t : TimeOfDay) : t.minuteOfDay < 1440 := by
  obtain ⟨hhour, hminute, -, -⟩ := t.isTime
  rw [minuteOfDay]
  omega

theorem ticks_lt (t : TimeOfDay) : t.ticks < dayTicks := by
  have hsecond := t.secondPart_lt
  have hminute : t.minuteOfDay * minuteTicks ≤ 1439 * minuteTicks :=
    Nat.mul_le_mul_right _ (Nat.le_of_lt_succ t.minuteOfDay_lt)
  rw [ticks_eq, dayTicks]
  omega

/-- **Ticks are in the order of the clock.** -/
theorem ticks_lt_iff : t.ticks < u.ticks ↔ t.Before u := by
  obtain ⟨ht, ht', ht'', ht'''⟩ := t.isTime
  obtain ⟨hu, hu', hu'', hu'''⟩ := u.isTime
  simp only [secondTicks] at ht''' hu'''
  simp only [ticks, Before, minuteTicks, secondTicks]
  omega

theorem ticks_injective : Function.Injective ticks := by
  intro t u h
  obtain ⟨ht, ht', ht'', ht'''⟩ := t.isTime
  obtain ⟨hu, hu', hu'', hu'''⟩ := u.isTime
  simp only [secondTicks] at ht''' hu'''
  simp only [ticks, minuteTicks, secondTicks] at h
  exact ext_numbers (by omega) (by omega) (by omega) (by omega)

end TimeOfDay

namespace DateTime

variable {t u : DateTime}

/-! ### Local clocks -/

/-- The ticks that the local clock shows. -/
def localTicks (t : DateTime) : Int :=
  t.date.dayNumber * dayTicks + t.time.ticks

theorem instant_eq (t : DateTime) : t.instant = t.localTicks - t.offset * minuteTicks := rfl

/-- The local clock shows an earlier date, or an earlier time of the same date. -/
def LocallyBefore (t u : DateTime) : Prop :=
  t.date.Before u.date ∨ t.date = u.date ∧ t.time.Before u.time

/-- Days come first, as no time of day is as long as a day. -/
theorem localTicks_lt_iff : t.localTicks < u.localTicks ↔ t.LocallyBefore u := by
  have ht := t.time.ticks_lt
  have hu := u.time.ticks_lt
  rw [LocallyBefore, ← Date.dayNumber_lt_iff, ← TimeOfDay.ticks_lt_iff,
    ← Date.dayNumber_injective.eq_iff]
  simp only [localTicks, dayTicks, minuteTicks, secondTicks] at ht hu ⊢
  omega

/-- At one offset the local clock tells the instant. -/
theorem eq_of_localTicks (h : t.localTicks = u.localTicks) (hoffset : t.offset = u.offset) :
    t = u := by
  have ht := t.time.ticks_lt
  have hu := u.time.ticks_lt
  simp only [localTicks, dayTicks, minuteTicks, secondTicks] at h ht hu
  have hdate : t.date = u.date := Date.dayNumber_injective (by omega)
  have htime : t.time = u.time := TimeOfDay.ticks_injective (by
    rw [hdate] at h
    omega)
  cases t
  cases u
  cases hdate
  cases htime
  cases hoffset
  rfl

/-! ### One minute further east -/

/-- The local clock shows one minute more. -/
inductive MinuteLater (t u : DateTime) : Prop
  | minute (date : u.date = t.date) (hour : u.time.hour = t.time.hour)
      (minute : u.time.minute = t.time.minute + 1)
  | hour (date : u.date = t.date) (hour : u.time.hour = t.time.hour + 1)
      (last : t.time.minute = 59) (first : u.time.minute = 0)
  | day (date : t.date.Next u.date) (lastHour : t.time.hour = 23) (firstHour : u.time.hour = 0)
      (last : t.time.minute = 59) (first : u.time.minute = 0)

/-- The clock that is a minute of offset further east. -/
structure East (t u : DateTime) : Prop where
  offset : u.offset = t.offset + 1
  second : u.time.second = t.time.second
  nanosecond : u.time.nanosecond = t.time.nanosecond
  clock : t.MinuteLater u

/-- **One minute further east the clock shows the same instant.** -/
theorem East.instant_eq (h : t.East u) : t.instant = u.instant := by
  have hlocal : u.localTicks = t.localTicks + minuteTicks := by
    rw [localTicks, localTicks, TimeOfDay.ticks_eq, TimeOfDay.ticks_eq, TimeOfDay.secondPart,
      TimeOfDay.secondPart, h.second, h.nanosecond, TimeOfDay.minuteOfDay, TimeOfDay.minuteOfDay]
    cases h.clock with
    | minute date hour minute =>
      rw [date, hour, minute]
      push_cast
      ring
    | hour date hour last first =>
      rw [date, hour, last, first]
      push_cast
      ring
    | day date lastHour firstHour last first =>
      rw [date.dayNumber_eq, lastHour, firstHour, last, first, dayTicks]
      push_cast
      ring
  rw [DateTime.instant_eq, DateTime.instant_eq, hlocal, h.offset]
  ring

/-- Clocks that show the same instant: they are joined by steps of one minute. -/
def SameInstant : DateTime → DateTime → Prop :=
  Relation.EqvGen East

theorem SameInstant.instant_eq (h : t.SameInstant u) : t.instant = u.instant := by
  induction h with
  | rel t u h => exact h.instant_eq
  | refl t => rfl
  | symm t u _ ih => exact ih.symm
  | trans t u v _ _ ih ih' => exact ih.trans ih'

/-- A clock has one a minute further east if another one that shows the same instant lies in that
direction.  So there is a next day where one is needed. -/
theorem exists_east (h : t.instant = u.instant) (hoffset : t.offset < u.offset) :
    ∃ v, t.East v := by
  obtain ⟨hhour, hminute, hsecond, hnano⟩ := t.time.isTime
  have hrange : IsOffset (t.offset + 1) := by
    obtain ⟨hlow, -⟩ := t.isOffset
    obtain ⟨-, hhigh⟩ := u.isOffset
    exact ⟨by omega, by omega⟩
  by_cases hlast : t.time.minute = 59
  · by_cases hday : t.time.hour = 23
    · have hnext : t.date.dayNumber < u.date.dayNumber := by
        have hu := u.time.ticks_lt
        rw [instant_eq, instant_eq] at h
        simp only [localTicks, TimeOfDay.ticks, hlast, hday, dayTicks, minuteTicks, secondTicks]
          at h hu
        omega
      obtain ⟨e, he⟩ := Date.exists_next hnext
      have htime : TimeOfDay.Exists 0 0 t.time.second t.time.nanosecond :=
        ⟨by decide, by decide, hsecond, hnano⟩
      exact ⟨⟨e, ⟨0, 0, _, _, htime⟩, _, hrange⟩, rfl, rfl, rfl, .day he hday rfl hlast rfl⟩
    · have htime : TimeOfDay.Exists (t.time.hour + 1) 0 t.time.second t.time.nanosecond :=
        ⟨by omega, by decide, hsecond, hnano⟩
      exact ⟨⟨t.date, ⟨_, 0, _, _, htime⟩, _, hrange⟩, rfl, rfl, rfl, .hour rfl rfl hlast rfl⟩
  · have htime : TimeOfDay.Exists t.time.hour (t.time.minute + 1) t.time.second
        t.time.nanosecond := ⟨hhour, by omega, hsecond, hnano⟩
    exact ⟨⟨t.date, ⟨_, _, _, _, htime⟩, _, hrange⟩, rfl, rfl, rfl, .minute rfl rfl rfl⟩

/-- The induction is on the minutes of offset that lie between the clocks. -/
theorem sameInstant_of_offset {n : Nat} (h : t.instant = u.instant)
    (hoffset : u.offset = t.offset + n) : t.SameInstant u := by
  induction n generalizing t with
  | zero =>
    have heq : t.offset = u.offset := by omega
    have hlocal : t.localTicks = u.localTicks := by
      rw [instant_eq, instant_eq, heq] at h
      omega
    rw [eq_of_localTicks hlocal heq]
    exact .refl u
  | succ n ih =>
    obtain ⟨v, heast⟩ := exists_east h (by omega)
    have hrest : v.SameInstant u := by
      refine ih (heast.instant_eq.symm.trans h) ?_
      rw [heast.offset, hoffset]
      push_cast
      ring
    exact .trans t v u (.rel t v heast) hrest

/-- **Clocks show the same instant just if their instants are equal.** -/
theorem sameInstant_iff : t.SameInstant u ↔ t.instant = u.instant := by
  refine ⟨SameInstant.instant_eq, fun h => ?_⟩
  rcases le_total t.offset u.offset with hle | hle
  · obtain ⟨n, hn⟩ := Int.le.dest hle
    exact sameInstant_of_offset h hn.symm
  · obtain ⟨n, hn⟩ := Int.le.dest hle
    exact .symm u t (sameInstant_of_offset h.symm hn.symm)

/-! ### Earlier instants -/

/-- An instant is shown at every offset, but for the first and the last year. -/
theorem exists_sameInstant (hlow : minYear < t.date.year) (hhigh : t.date.year < maxYear)
    {offset : Int} (h : IsOffset offset) : ∃ v, t.SameInstant v ∧ v.offset = offset := by
  obtain ⟨hfrom, hto⟩ := t.isOffset
  obtain ⟨hfrom', hto'⟩ := h
  have hminutes := t.time.minuteOfDay_lt
  obtain ⟨-, -, hsecond, hnano⟩ := t.time.isTime
  -- The minutes that the clock shows at the other offset, counted from midnight of the same date.
  obtain ⟨minutes, hshift⟩ : ∃ minutes : Int,
      minutes = t.time.minuteOfDay + (offset - t.offset) := ⟨_, rfl⟩
  obtain ⟨date, hdate⟩ : ∃ e : Date, e.dayNumber = t.date.dayNumber + minutes / 1440 :=
    Date.exists_shifted hlow hhigh (by omega) (by omega)
  have htime : TimeOfDay.Exists ((minutes % 1440).toNat / 60) ((minutes % 1440).toNat % 60)
      t.time.second t.time.nanosecond := ⟨by omega, by omega, hsecond, hnano⟩
  refine ⟨⟨date, ⟨_, _, _, _, htime⟩, offset, hfrom', hto'⟩, sameInstant_iff.mpr ?_, rfl⟩
  simp only [instant_eq, localTicks, hdate, TimeOfDay.ticks, dayTicks, minuteTicks, secondTicks]
  simp only [TimeOfDay.minuteOfDay] at hshift
  omega

/-- A clock shows an earlier instant: at the offset of the other one it shows an earlier date or
time. -/
def Earlier (t u : DateTime) : Prop :=
  ∃ v, t.SameInstant v ∧ v.offset = u.offset ∧ v.LocallyBefore u

/-- **A clock shows an earlier instant just if its instant is less.** -/
theorem instant_lt_iff (hlow : minYear < t.date.year) (hhigh : t.date.year < maxYear) :
    t.instant < u.instant ↔ t.Earlier u := by
  have hlocal {v : DateTime} (hoffset : v.offset = u.offset) :
      v.instant < u.instant ↔ v.LocallyBefore u := by
    rw [← localTicks_lt_iff, instant_eq, instant_eq, hoffset]
    omega
  constructor
  · intro h
    obtain ⟨v, hsame, hoffset⟩ := exists_sameInstant hlow hhigh u.isOffset
    rw [hsame.instant_eq, hlocal hoffset] at h
    exact ⟨v, hsame, hoffset, h⟩
  · rintro ⟨v, hsame, hoffset, hbefore⟩
    rw [hsame.instant_eq]
    exact (hlocal hoffset).mpr hbefore

end DateTime

end RecordSchema.Calendar
