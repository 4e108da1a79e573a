import Mathlib
import RecordSchema.Calendar.Date

/-!
# Days of the calendar

Days are counted in a single sequence.  Within a month the next day has the next number, the last
day of a month is followed by the first one of the next month, and the last day of a year by the
first one of the next year, whether or not there was a leap day.  So the count orders dates as the
calendar does, and no day is left out.

* `Date.Next`: the day after a date; `Date.Next.dayNumber_eq` counts it.
* `Date.Before`: the order of the calendar.
* `Date.dayNumber_lt_iff`, `Date.dayNumber_injective`: the count keeps that order.
* `Date.exists_of_dayNumber`: between two dates each number belongs to a date.
-/

namespace RecordSchema.Calendar

/-! ### Months and years -/

theorem isLeapYear_iff {year : Int} :
    isLeapYear year = true ↔ year % 4 = 0 ∧ year % 100 ≠ 0 ∨ year % 400 = 0 := by
  simp [isLeapYear]

theorem daysInMonth_bounds (year : Int) (month : Nat) :
    28 ≤ daysInMonth year month ∧ daysInMonth year month ≤ 31 := by
  unfold daysInMonth
  split
  · split <;> decide
  all_goals decide

theorem daysBeforeMonth_succ (year : Int) {month : Nat} (h : 1 ≤ month) :
    daysBeforeMonth year (month + 1) = daysBeforeMonth year month + daysInMonth year month := by
  rw [daysBeforeMonth, if_neg (by omega)]

theorem daysBeforeMonth_one (year : Int) : daysBeforeMonth year 1 = 0 := rfl

theorem daysBeforeMonth_mono (year : Int) : Monotone (daysBeforeMonth year) := by
  refine monotone_nat_of_le_succ fun month => ?_
  rw [daysBeforeMonth]
  exact Nat.le_add_right _ _

theorem daysBeforeMonth_thirteen (year : Int) :
    daysBeforeMonth year 13 = if isLeapYear year then 366 else 365 := by
  by_cases h : isLeapYear year = true <;> simp [daysBeforeMonth, daysInMonth, h]

/-- **A year lasts as long as its months.** -/
theorem daysBeforeYear_succ (year : Int) :
    daysBeforeYear (year + 1) = daysBeforeYear year + daysBeforeMonth year 13 := by
  rw [daysBeforeMonth_thirteen, daysBeforeYear, daysBeforeYear]
  split
  · next hleap =>
    have h := isLeapYear_iff.mp hleap
    omega
  · next hcommon =>
    have h := mt isLeapYear_iff.mpr hcommon
    omega

theorem daysBeforeYear_mono : Monotone daysBeforeYear := by
  refine monotone_int_of_le_succ fun year => ?_
  rw [daysBeforeYear_succ]
  omega

namespace Date

variable {d e : Date}

theorem ext_numbers (hyear : d.year = e.year) (hmonth : d.month = e.month)
    (hday : d.day = e.day) : d = e := by
  cases d
  cases e
  cases hyear
  cases hmonth
  cases hday
  rfl

/-- The number of the day within its year. -/
def dayOfYear (d : Date) : Nat :=
  daysBeforeMonth d.year d.month + d.day

theorem dayNumber_eq (d : Date) : d.dayNumber = daysBeforeYear d.year + d.dayOfYear := by
  rw [dayNumber, dayOfYear]
  omega

theorem dayOfYear_le_month (d : Date) : d.dayOfYear ≤ daysBeforeMonth d.year (d.month + 1) := by
  obtain ⟨-, -, hmonth, -, -, hday⟩ := d.isDate
  rw [dayOfYear, daysBeforeMonth_succ d.year hmonth]
  omega

theorem dayOfYear_le_year (d : Date) : d.dayOfYear ≤ daysBeforeMonth d.year 13 := by
  have hmonth := d.isDate.2.2.2.1
  exact d.dayOfYear_le_month.trans (daysBeforeMonth_mono d.year (by omega))

theorem dayOfYear_pos (d : Date) : 0 < d.dayOfYear := by
  have hday := d.isDate.2.2.2.2.1
  rw [dayOfYear]
  omega

/-! ### The next day -/

/-- The day after a date. -/
inductive Next (d e : Date) : Prop
  | day (year : e.year = d.year) (month : e.month = d.month) (day : e.day = d.day + 1)
  | month (year : e.year = d.year) (month : e.month = d.month + 1)
      (last : d.day = daysInMonth d.year d.month) (first : e.day = 1)
  | year (year : e.year = d.year + 1) (december : d.month = 12) (january : e.month = 1)
      (last : d.day = 31) (first : e.day = 1)

/-- **The day after a date has the next number.** -/
theorem Next.dayNumber_eq (h : Next d e) : e.dayNumber = d.dayNumber + 1 := by
  rw [Date.dayNumber_eq, Date.dayNumber_eq, dayOfYear, dayOfYear]
  cases h with
  | day year month day =>
    rw [year, month, day]
    omega
  | month year month last first =>
    have hmonth := d.isDate.2.2.1
    rw [year, month, daysBeforeMonth_succ d.year hmonth, last, first]
    omega
  | year year december january last first =>
    have hyear : daysBeforeMonth d.year 13 = daysBeforeMonth d.year 12 + 31 :=
      daysBeforeMonth_succ d.year (by decide)
    rw [year, december, january, last, first, daysBeforeYear_succ, daysBeforeMonth_one, hyear]
    omega

/-! ### The order of the calendar -/

/-- Earlier in the calendar. -/
def Before (d e : Date) : Prop :=
  d.year < e.year ∨ d.year = e.year ∧ (d.month < e.month ∨ d.month = e.month ∧ d.day < e.day)

theorem before_trichotomy (d e : Date) : d.Before e ∨ d = e ∨ e.Before d := by
  by_cases hyear : d.year = e.year
  · by_cases hmonth : d.month = e.month
    · by_cases hday : d.day = e.day
      · exact Or.inr (Or.inl (ext_numbers hyear hmonth hday))
      · rw [Before, Before]
        omega
    · rw [Before, Before]
      omega
  · rw [Before, Before]
    omega

/-- **An earlier date has a smaller number.** -/
theorem Before.dayNumber_lt (h : d.Before e) : d.dayNumber < e.dayNumber := by
  rw [dayNumber_eq, dayNumber_eq]
  rcases h with hyear | ⟨hyear, hmonth | ⟨hmonth, hday⟩⟩
  · have hend := d.dayOfYear_le_year
    have hbegin := e.dayOfYear_pos
    have hyears : daysBeforeYear (d.year + 1) ≤ daysBeforeYear e.year :=
      daysBeforeYear_mono (by omega)
    rw [daysBeforeYear_succ] at hyears
    omega
  · have hend := d.dayOfYear_le_month
    have hmonths : daysBeforeMonth e.year (d.month + 1) ≤ daysBeforeMonth e.year e.month :=
      daysBeforeMonth_mono e.year hmonth
    have hday := e.isDate.2.2.2.2.1
    rw [hyear] at hend
    rw [hyear, dayOfYear.eq_1 e]
    omega
  · rw [dayOfYear, dayOfYear, hyear, hmonth]
    omega

/-- **The count keeps the order of the calendar.** -/
theorem dayNumber_lt_iff : d.dayNumber < e.dayNumber ↔ d.Before e := by
  refine ⟨fun h => ?_, Before.dayNumber_lt⟩
  rcases before_trichotomy d e with hbefore | rfl | hafter
  · exact hbefore
  · exact absurd h (lt_irrefl _)
  · exact absurd h hafter.dayNumber_lt.le.not_gt

theorem dayNumber_injective : Function.Injective dayNumber := by
  intro d e h
  rcases before_trichotomy d e with hbefore | heq | hafter
  · exact absurd h hbefore.dayNumber_lt.ne
  · exact heq
  · exact absurd h hafter.dayNumber_lt.ne'

/-! ### No day is left out -/

theorem exists_next (h : d.dayNumber < e.dayNumber) : ∃ f, Next d f := by
  obtain ⟨hlow, hhigh, hmonth, hmonth', hday, hday'⟩ := d.isDate
  by_cases hlast : d.day = daysInMonth d.year d.month
  · by_cases hdecember : d.month = 12
    · have hyear : d.year < e.year := by
        have hbefore := dayNumber_lt_iff.mp h
        have hend := e.isDate.2.2.2.1
        have hdays := e.isDate.2.2.2.2.2
        rcases hbefore with hyear | ⟨hyear, hm | ⟨hm, hd⟩⟩
        · exact hyear
        · omega
        · rw [← hyear, ← hm] at hdays
          omega
      have hmax := e.isDate.2.1
      have hdays := daysInMonth_bounds (d.year + 1) 1
      have hexists : Exists (d.year + 1) 1 1 :=
        ⟨by omega, by omega, le_rfl, by decide, le_rfl, by omega⟩
      have hlast' : d.day = 31 := by
        rw [hlast, hdecember]
        rfl
      exact ⟨⟨d.year + 1, 1, 1, hexists⟩, .year rfl hdecember rfl hlast' rfl⟩
    · have hdays := daysInMonth_bounds d.year (d.month + 1)
      have hexists : Exists d.year (d.month + 1) 1 :=
        ⟨hlow, hhigh, by omega, by omega, le_rfl, by omega⟩
      exact ⟨⟨d.year, d.month + 1, 1, hexists⟩, .month rfl rfl hlast rfl⟩
  · have hexists : Exists d.year d.month (d.day + 1) :=
      ⟨hlow, hhigh, hmonth, hmonth', by omega, by omega⟩
    exact ⟨⟨d.year, d.month, d.day + 1, hexists⟩, .day rfl rfl rfl⟩

/-- **Between two dates each number belongs to a date.**  The induction goes from day to day. -/
theorem exists_of_dayNumber {n : Int} (hlow : d.dayNumber ≤ n) (hhigh : n ≤ e.dayNumber) :
    ∃ f : Date, f.dayNumber = n := by
  obtain ⟨k, rfl⟩ := Int.le.dest hlow
  induction k with
  | zero => exact ⟨d, by simp⟩
  | succ k ih =>
    obtain ⟨f, hf⟩ := ih (by omega) (by omega)
    obtain ⟨g, hg⟩ := exists_next (d := f) (e := e) (by omega)
    exact ⟨g, by rw [hg.dayNumber_eq, hf]; omega⟩

/-- The first date of the calendar. -/
def first : Date :=
  ⟨minYear, 1, 1, by decide⟩

/-- The last date of the calendar. -/
def last : Date :=
  ⟨maxYear, 12, 31, by decide⟩

/-- Within a year of a date, be it before or after, all days are there, but for the first and the
last year. -/
theorem exists_shifted (hlow : minYear < d.year) (hhigh : d.year < maxYear) {days : Int}
    (hback : -365 ≤ days) (hforth : days ≤ 365) : ∃ e : Date, e.dayNumber = d.dayNumber + days := by
  have hbegin := d.dayOfYear_pos
  have hend := d.dayOfYear_le_year
  have hyear := daysBeforeYear_succ d.year
  have hfrom : daysBeforeYear (minYear + 1) ≤ daysBeforeYear d.year :=
    daysBeforeYear_mono (by omega)
  have hto : daysBeforeYear (d.year + 1) ≤ daysBeforeYear maxYear := daysBeforeYear_mono (by omega)
  have hbefore : first.dayNumber + 365 ≤ daysBeforeYear (minYear + 1) + 1 := by decide
  have hafter : daysBeforeYear maxYear + 365 ≤ last.dayNumber := by decide
  rw [dayNumber_eq d]
  exact exists_of_dayNumber (d := first) (e := last) (by omega) (by omega)

end Date

end RecordSchema.Calendar
