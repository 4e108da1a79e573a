import RecordSchema.Calendar.Temporal
import RecordSchema.Proofs.Calendar.RoundTrip

/-!
# Texts of one scale

No text is read on two scales.  A date and a time part after their first number, which is followed
by a hyphen in one and by a colon in the other.  A date with a time and an offset begins with a
date, but goes on after it, and it begins with more digits than a time does.

* `DateTime.readFront_of_readDate`: a date of fixed width is a date.
* `Temporal.scale_unique`: a text is read on one scale at most.
-/

namespace RecordSchema.Calendar

/-- A time is no date: a colon follows its first number. -/
theorem Date.read?_eq_none_of_time {cs : List Char} {t : TimeOfDay}
    (h : TimeOfDay.read? cs = some t) : Date.read? cs = none := by
  simp only [TimeOfDay.read?, Option.bind_eq_bind, Option.bind_eq_some_iff] at h
  obtain ⟨⟨hour, cs'⟩, hhour, rest, hcolon, -⟩ := h
  obtain ⟨digits, hdigits, hne, hlength, hcs, -⟩ := exists_of_number hhour
  obtain rfl : cs' = ':' :: rest := eq_cons_of_expect hcolon
  have hnumber : number 4 (digits ++ ':' :: rest) = some (ofDigits digits, ':' :: rest) :=
    number_append hdigits hne (by omega) (Or.inr (.cons rfl rest))
  have hfront : Date.readFront cs = none := by
    rw [Date.readFront, hcs, Date.readYear_append hdigits hne, hnumber]
    rfl
  rw [Date.read?, hfront]

namespace DateTime

/-- **A date of fixed width is a date**, and the same follows it. -/
theorem readFront_of_readDate {cs rest : List Char} {d : Date} (h : readDate cs = some (d, rest)) :
    Date.readFront cs = some (d, rest) := by
  simp only [readDate, Option.bind_eq_bind, Option.bind_eq_some_iff] at h
  obtain ⟨⟨year, cs₁⟩, hyear, cs₂, hfirst, ⟨month, cs₃⟩, hmonth, cs₄, hsecond, ⟨day, cs₅⟩, hday,
    date, hdate, hpair⟩ := h
  cases hpair
  obtain ⟨years, hyears, hylength, rfl, rfl⟩ := exists_of_fixed hyear
  obtain rfl := eq_cons_of_expect hfirst
  obtain ⟨months, hmonths, hmlength, rfl, rfl⟩ := exists_of_fixed hmonth
  obtain rfl := eq_cons_of_expect hsecond
  obtain ⟨days, hdays, hdlength, rfl, rfl⟩ := exists_of_fixed hday
  have hyne : years ≠ [] := List.ne_nil_of_length_pos (by omega)
  have hmne : months ≠ [] := List.ne_nil_of_length_pos (by omega)
  have hdne : days ≠ [] := List.ne_nil_of_length_pos (by omega)
  rw [Date.readFront, skipBlanks_append hyne hyears, Date.readYear_append hyears hyne,
    number_append hyears hyne hylength.le (Or.inl hylength)]
  simp only [Option.bind_eq_bind, Option.bind_some, Option.map_some, expect_cons,
    skipBlanks_append hmne hmonths, number_append hmonths hmne hmlength.le (Or.inl hmlength),
    skipBlanks_append hdne hdays, number_append hdays hdne hdlength.le (Or.inl hdlength), hdate]
  rfl

variable {cs : List Char} {t : DateTime}

/-- A date with a time is no date: something follows its date. -/
theorem date_read?_eq_none (h : read? cs = some t) : Date.read? cs = none := by
  simp only [read?, Option.bind_eq_bind, Option.bind_eq_some_iff] at h
  obtain ⟨⟨date, rest⟩, hdate, cs', hseparator, -⟩ := h
  rw [Date.read?, readFront_of_readDate hdate]
  cases rest with
  | nil => cases hseparator
  | cons c rest => rfl

/-- A date with a time is no time: a digit follows its first two. -/
theorem time_read?_eq_none (h : read? cs = some t) : TimeOfDay.read? cs = none := by
  simp only [read?, readDate, Option.bind_eq_bind, Option.bind_eq_some_iff] at h
  obtain ⟨_, ⟨⟨year, rest⟩, hyear, -⟩, -⟩ := h
  obtain ⟨digits, hdigits, hlength, rfl, -⟩ := exists_of_fixed hyear
  obtain ⟨a, b, c, d, rfl⟩ := List.length_eq_four.mp hlength
  have htwo : AllDigits [a, b] := fun x hx => hdigits x (by
    rcases List.mem_pair.mp hx with rfl | rfl <;> simp)
  have hc : c ≠ ':' := by
    rintro rfl
    exact absurd (hdigits ':' (by simp)) (by decide)
  have hnumber : number 2 ([a, b] ++ c :: d :: rest) = some (ofDigits [a, b], c :: d :: rest) :=
    number_append htwo (by simp) (by simp) (Or.inl rfl)
  have hblanks : skipBlanks ([a, b, c, d] ++ rest) = [a, b] ++ c :: d :: rest :=
    skipBlanks_append (by simp) hdigits rest
  have hcolon : expect ':' (c :: d :: rest) = none := if_neg hc
  rw [TimeOfDay.read?, hblanks, hnumber]
  simp only [Option.bind_eq_bind, Option.bind_some, hcolon, Option.bind_none]

end DateTime

end RecordSchema.Calendar

namespace RecordSchema

open Calendar

/-- **A text is read on one scale at most.** -/
theorem Temporal.scale_unique {text : String} {scale other : Scale} {t u : Temporal}
    (ht : read? scale text = some t) (hu : read? other text = some u) : scale = other := by
  have hdateTime : ∀ d time, Date.read? text.toList = some d →
      TimeOfDay.read? text.toList ≠ some time := by
    intro d time hd htime
    rw [Date.read?_eq_none_of_time htime] at hd
    cases hd
  have hdateBoth : ∀ d both, Date.read? text.toList = some d →
      DateTime.read? text.toList ≠ some both := by
    intro d both hd hboth
    rw [DateTime.date_read?_eq_none hboth] at hd
    cases hd
  have htimeBoth : ∀ time both, TimeOfDay.read? text.toList = some time →
      DateTime.read? text.toList ≠ some both := by
    intro time both htime hboth
    rw [DateTime.time_read?_eq_none hboth] at htime
    cases htime
  cases scale <;> obtain ⟨p, hp, -⟩ := Option.map_eq_some_iff.mp ht <;>
    cases other <;> obtain ⟨q, hq, -⟩ := Option.map_eq_some_iff.mp hu
  case date.date | time.time | dateTime.dateTime => rfl
  case date.time => exact absurd hq (hdateTime p q hp)
  case date.dateTime => exact absurd hq (hdateBoth p q hp)
  case time.date => exact absurd hp (hdateTime q p hq)
  case time.dateTime => exact absurd hq (htimeBoth p q hp)
  case dateTime.date => exact absurd hp (hdateBoth q p hq)
  case dateTime.time => exact absurd hp (htimeBoth q p hq)

end RecordSchema
