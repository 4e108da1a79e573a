import RecordSchema.Kind
import RecordSchema.Proofs.Calendar.Days
import RecordSchema.Proofs.Calendar.Digits

/-!
# Written dates and times are read back

Reading is generous: numbers may lack zeros or follow blanks, a fraction may have any length, a
separator may be in lower case.  Writing has one form for each value.  That form is read back as the
value it was written from, so that what is read and written once is not changed by doing it again.

* `Date.read?_text`, `TimeOfDay.read?_text`: dates and times are read back.
* `DateTime.read?_text`: so are dates with time and offset whose year has four digits and no sign,
  as all have that were read (`DateTime.year_of_read?`).
* `temporal_text_round_trips`: the text of a point in time is one for the same point.
-/

namespace RecordSchema.Calendar

/-! ### Dates -/

namespace Date

theorem month_lt (d : Date) : d.month < 10 ^ 2 := by
  have h := d.isDate.2.2.2.1
  omega

theorem day_lt (d : Date) : d.day < 10 ^ 2 := by
  have h := d.isDate.2.2.2.2.2
  have hle := (daysInMonth_bounds d.year d.month).2
  omega

theorem of?_self (d : Date) : of? d.year d.month d.day = some d :=
  dif_pos d.isDate

theorem of?_eq_some_iff {year : Int} {month day : Nat} {d : Date} :
    of? year month day = some d ↔ d.year = year ∧ d.month = month ∧ d.day = day := by
  constructor
  · intro h
    rw [of?] at h
    split at h
    · cases h
      exact ⟨rfl, rfl, rfl⟩
    · cases h
  · rintro ⟨rfl, rfl, rfl⟩
    exact d.of?_self

theorem skipBlanks_yearText (year : Int) (rest : List Char) :
    skipBlanks (yearText year ++ rest) = yearText year ++ rest := by
  rw [yearText]
  split
  · rfl
  · split
    · rfl
    · exact skipBlanks_padded 4 _ rest

theorem readYear_append {digits rest : List Char} (hdigits : AllDigits digits)
    (hne : digits ≠ []) : readYear (digits ++ rest) =
      (number 4 (digits ++ rest)).map fun (n, rest) => ((n : Int), rest) := by
  cases digits with
  | nil => exact absurd rfl hne
  | cons c cs =>
    have hc : c.isDigit = true := hdigits c List.mem_cons_self
    rw [List.cons_append, readYear]
    · rintro cs' ⟨⟩
      cases hc
    · rintro cs' ⟨⟩
      cases hc

/-- **A written year is read back**, whatever its sign. -/
theorem readYear_yearText (year : Int) (rest : List Char) :
    readYear (yearText year ++ '-' :: rest) = some (year, '-' :: rest) := by
  have hends : EndsDigits ('-' :: rest) := .cons rfl rest
  have hsigned : ∀ n : Nat, number (padded 4 n ++ '-' :: rest).length
      (padded 4 n ++ '-' :: rest) = some (n, '-' :: rest) := by
    intro n
    rw [number_append (padded_isDigit 4 n) (padded_ne_nil 4 n) (by simp) (Or.inr hends),
      ofDigits_padded]
  rw [yearText]
  split
  · next hneg =>
    have habs : -(year.natAbs : Int) = year := by omega
    rw [List.cons_append, readYear, hsigned, Option.map_some]
    exact congrArg (fun y => some (y, '-' :: rest)) habs
  · next hnonneg =>
    have habs : (year.natAbs : Int) = year := by omega
    split
    · rw [List.cons_append, readYear, hsigned, Option.map_some]
      exact congrArg (fun y => some (y, '-' :: rest)) habs
    · next hle =>
      rw [readYear_append (padded_isDigit 4 _) (padded_ne_nil 4 _),
        number_padded (by decide) (by omega), Option.map_some]
      exact congrArg (fun y => some (y, '-' :: rest)) habs

theorem readFront_text (d : Date) (rest : List Char) :
    readFront (d.text ++ rest) = some (d, rest) := by
  have htext : d.text ++ rest = yearText d.year ++
      '-' :: (padded 2 d.month ++ '-' :: (padded 2 d.day ++ rest)) := by
    simp [text]
  rw [htext, readFront, skipBlanks_yearText, readYear_yearText]
  simp only [Option.bind_eq_bind, Option.bind_some, expect_cons, skipBlanks_padded,
    number_padded (by decide) d.month_lt, number_padded (by decide) d.day_lt, of?_self]
  rfl

/-- **A written date is read back.** -/
theorem read?_text (d : Date) : read? d.text = some d := by
  have hfront := d.readFront_text []
  rw [List.append_nil] at hfront
  rw [read?, hfront]

end Date

/-! ### Times of day -/

namespace TimeOfDay

theorem hour_lt (t : TimeOfDay) : t.hour < 10 ^ 2 := by
  have h := t.isTime.1
  omega

theorem minute_lt (t : TimeOfDay) : t.minute < 10 ^ 2 := by
  have h := t.isTime.2.1
  omega

theorem second_lt (t : TimeOfDay) : t.second < 10 ^ 2 := by
  have h := t.isTime.2.2.1
  omega

theorem of?_self (t : TimeOfDay) : of? t.hour t.minute t.second t.nanosecond = some t :=
  dif_pos t.isTime

theorem of?_eq_some_iff {hour minute second nanosecond : Nat} {t : TimeOfDay} :
    of? hour minute second nanosecond = some t ↔
      t.hour = hour ∧ t.minute = minute ∧ t.second = second ∧ t.nanosecond = nanosecond := by
  constructor
  · intro h
    rw [of?] at h
    split at h
    · cases h
      exact ⟨rfl, rfl, rfl, rfl⟩
    · cases h
  · rintro ⟨rfl, rfl, rfl, rfl⟩
    exact t.of?_self

theorem fraction_padded {places n : Nat} (hpos : 0 < places) (hle : places ≤ fractionPlaces)
    (hn : n < 10 ^ places) {rest : List Char} (hends : EndsDigits rest) :
    fraction (padded places n ++ rest) = some (n * 10 ^ (fractionPlaces - places), rest) := by
  have hlength := length_padded hpos hn
  rw [fraction_append (padded_isDigit places n) (padded_ne_nil places n) (hlength.le.trans hle)
    hends, ofDigits_padded, hlength]

/-- **A written fraction is read back**: the places that it lacks are zeros. -/
theorem optionalFraction_fractionText {nanosecond : Nat} (h : nanosecond < secondTicks)
    {rest : List Char} (hends : EndsDigits rest) (hpoint : ∀ cs, rest ≠ '.' :: cs) :
    optionalFraction (fractionText nanosecond ++ rest) = some (nanosecond, rest) := by
  have hticks : secondTicks = 10 ^ 9 := rfl
  rw [fractionText]
  split
  · next hzero =>
    rw [hzero, List.nil_append, optionalFraction]
    exact hpoint
  · split
    · next hmod =>
      have hplaces : nanosecond / 1000000 * 10 ^ (fractionPlaces - 3) = nanosecond :=
        Nat.div_mul_cancel (Nat.dvd_of_mod_eq_zero hmod)
      rw [List.cons_append, optionalFraction,
        fraction_padded (by decide) (by decide) (by omega) hends, hplaces]
    · split
      · next hmod =>
        have hplaces : nanosecond / 1000 * 10 ^ (fractionPlaces - 6) = nanosecond :=
          Nat.div_mul_cancel (Nat.dvd_of_mod_eq_zero hmod)
        rw [List.cons_append, optionalFraction,
          fraction_padded (by decide) (by decide) (by omega) hends, hplaces]
      · rw [List.cons_append, optionalFraction,
          fraction_padded (by decide) (by decide) (by omega) hends]
        exact congrArg (fun n => some (n, rest)) (Nat.mul_one nanosecond)

/-- **A written time is read back.** -/
theorem read?_text (t : TimeOfDay) : read? t.text = some t := by
  have hfraction : optionalFraction (fractionText t.nanosecond) = some (t.nanosecond, []) := by
    have h := optionalFraction_fractionText t.isTime.2.2.2 EndsDigits.nil (by simp)
    rwa [List.append_nil] at h
  have htext : t.text = padded 2 t.hour ++
      ':' :: (padded 2 t.minute ++ ':' :: (padded 2 t.second ++ fractionText t.nanosecond)) := by
    simp [text]
  rw [htext, read?]
  simp only [Option.bind_eq_bind, Option.bind_some, expect_cons, skipBlanks_padded,
    number_padded (by decide) t.hour_lt, number_padded (by decide) t.minute_lt,
    number_padded (by decide) t.second_lt, hfraction, of?_self]
  rfl

end TimeOfDay

/-! ### Dates with a time and an offset -/

namespace DateTime

theorem readDate_text {d : Date} (hlow : 0 ≤ d.year) (hhigh : d.year ≤ 9999) (rest : List Char) :
    readDate (d.text ++ rest) = some (d, rest) := by
  have hyear : Date.yearText d.year = padded 4 d.year.natAbs := by
    rw [Date.yearText, if_neg (not_lt.mpr hlow), if_neg (not_lt.mpr hhigh)]
  have htext : d.text ++ rest = padded 4 d.year.natAbs ++
      '-' :: (padded 2 d.month ++ '-' :: (padded 2 d.day ++ rest)) := by
    simp [Date.text, hyear]
  have hsize : d.year.natAbs < 10 ^ 4 := by omega
  rw [htext, readDate]
  simp only [Option.bind_eq_bind, Option.bind_some, expect_cons, fixed_padded (by decide) hsize,
    fixed_padded (by decide) d.month_lt, fixed_padded (by decide) d.day_lt,
    Int.natAbs_of_nonneg hlow, Date.of?_self]
  rfl

theorem readTime_text (t : TimeOfDay) {rest : List Char} (hends : EndsDigits rest)
    (hpoint : ∀ cs, rest ≠ '.' :: cs) : readTime (t.text ++ rest) = some (t, rest) := by
  have htext : t.text ++ rest = padded 2 t.hour ++ ':' :: (padded 2 t.minute ++
      ':' :: (padded 2 t.second ++ (TimeOfDay.fractionText t.nanosecond ++ rest))) := by
    simp [TimeOfDay.text]
  rw [htext, readTime]
  simp only [Option.bind_eq_bind, Option.bind_some, expect_cons,
    fixed_padded (by decide) t.hour_lt, fixed_padded (by decide) t.minute_lt,
    fixed_padded (by decide) t.second_lt,
    TimeOfDay.optionalFraction_fractionText t.isTime.2.2.2 hends hpoint, TimeOfDay.of?_self]
  rfl

theorem readOffsetSize_text {minutes : Nat} (h : minutes < 1440) :
    readOffsetSize (padded 2 (minutes / 60) ++ ':' :: padded 2 (minutes % 60)) =
      some ((minutes : Int), []) := by
  have hhours : minutes / 60 < 10 ^ 2 := by omega
  have hminutes : minutes % 60 < 10 ^ 2 := by omega
  have hsize := fixed_padded (by decide) hminutes []
  rw [List.append_nil] at hsize
  rw [readOffsetSize]
  simp only [Option.bind_eq_bind, Option.bind_some, expect_cons, fixed_padded (by decide) hhours,
    hsize]
  have hsum : 60 * ((minutes / 60 : Nat) : Int) + (minutes % 60 : Nat) = minutes := by omega
  rw [if_pos (Nat.mod_lt _ (by decide)), hsum]
  rfl

/-- **A written offset is read back.** -/
theorem readOffset_text {minutes : Int} (h : IsOffset minutes) :
    readOffset (offsetText minutes) = some (minutes, []) := by
  obtain ⟨hlow, hhigh⟩ := h
  have hbelow : minutes.natAbs < 1440 := by omega
  have hsize := readOffsetSize_text hbelow
  rw [offsetText]
  split
  · next hneg =>
    have habs : -(minutes.natAbs : Int) = minutes := by omega
    rw [readOffset, hsize, Option.map_some]
    exact congrArg (fun n => some (n, [])) habs
  · next hnonneg =>
    have habs : (minutes.natAbs : Int) = minutes := by omega
    rw [readOffset, hsize, habs]

/-- **A written date with time and offset is read back** if its year has four digits. -/
theorem read?_text {t : DateTime} (hlow : 0 ≤ t.date.year) (hhigh : t.date.year ≤ 9999) :
    read? t.text = some t := by
  have hends : EndsDigits (offsetText t.offset) := by
    rw [offsetText]
    split <;> exact .cons rfl _
  have hpoint : ∀ cs, offsetText t.offset ≠ '.' :: cs := by
    intro cs
    rw [offsetText]
    split <;> simp
  have htext : t.text = t.date.text ++ 'T' :: (t.time.text ++ offsetText t.offset) := by
    simp [text]
  rw [htext, read?]
  simp only [Option.bind_eq_bind, Option.bind_some, readDate_text hlow hhigh, readSeparator,
    readTime_text t.time hends hpoint, readOffset_text t.isOffset]
  exact dif_pos t.isOffset

/-- **The year of a date that was read with a time has four digits.** -/
theorem year_of_read? {cs : List Char} {t : DateTime} (h : read? cs = some t) :
    0 ≤ t.date.year ∧ t.date.year ≤ 9999 := by
  simp only [read?, readDate, Option.bind_eq_bind, Option.bind_eq_some_iff] at h
  obtain ⟨⟨date, cs'⟩, ⟨⟨year, _⟩, hyear, _, -, _, -, _, -, _, -, date', hdate, hpair⟩, h⟩ := h
  cases hpair
  obtain ⟨_, -, ⟨time, _⟩, -, ⟨offset, cs''⟩, -, h⟩ := h
  obtain ⟨digits, hdigits, hlength, -, rfl⟩ := exists_of_fixed hyear
  have hsize := ofDigits_lt hdigits
  rw [hlength] at hsize
  have ht : t.date = date := by
    split at h
    · split at h
      · cases h
        rfl
      · cases h
    · cases h
  rw [ht, (Date.of?_eq_some_iff.mp hdate).1]
  omega

end DateTime

end RecordSchema.Calendar

namespace RecordSchema

open Calendar

/-! ### Points in time -/

namespace Temporal

/-- **What was read and is written is read back.** -/
theorem read?_text {scale : Scale} {text : String} {t : Temporal} (h : read? scale text = some t) :
    read? scale t.text = some t := by
  cases scale with
  | date =>
    obtain ⟨d, -, rfl⟩ := Option.map_eq_some_iff.mp h
    rw [read?, Temporal.text, String.toList_ofList, Date.read?_text, Option.map_some]
  | time =>
    obtain ⟨time, -, rfl⟩ := Option.map_eq_some_iff.mp h
    rw [read?, Temporal.text, String.toList_ofList, TimeOfDay.read?_text, Option.map_some]
  | dateTime =>
    obtain ⟨time, hread, rfl⟩ := Option.map_eq_some_iff.mp h
    obtain ⟨hlow, hhigh⟩ := DateTime.year_of_read? hread
    rw [read?, Temporal.text, String.toList_ofList, DateTime.read?_text hlow hhigh, Option.map_some]

end Temporal

theorem Kind.admits_str_iff {k : Kind} (temporal : k.isTemporal = true) {text : String} :
    k.admits (.str text) = true ↔ ∃ t, k.readPoint? text = some t := by
  have hadmits : k.admits (.str text) = (k.readPoint? text).isSome := by
    cases k <;> first | rfl | cases temporal
  rw [hadmits, Option.isSome_iff_exists]

theorem Kind.readPoint?_text {k : Kind} {text : String} {t : Temporal}
    (h : k.readPoint? text = some t) : k.readPoint? t.text = some t := by
  obtain ⟨scale, hscale, hread⟩ := Option.bind_eq_some_iff.mp h
  rw [readPoint?, hscale, Option.bind_some]
  exact Temporal.read?_text hread

/-- **Texts of points in time survive a round trip.**  A text that a kind accepts is read as a point
in time.  The text of that point is accepted as well and read as the same point, whose text it is
once more.  And the texts of two points that were read are the same only if the points are. -/
theorem temporal_text_round_trips {kind : Kind} (temporal : kind.isTemporal = true) {text : String}
    (accepted : kind.admits (.str text) = true) :
    ∃ t, kind.readPoint? text = some t ∧ kind.admits (.str t.text) = true ∧
      kind.readPoint? t.text = some t ∧
      (∀ u, kind.readPoint? t.text = some u → u = t ∧ u.text = t.text) ∧
      ∀ other u, kind.readPoint? other = some u → (u.text = t.text ↔ u = t) := by
  obtain ⟨t, hread⟩ := (Kind.admits_str_iff temporal).mp accepted
  have hagain : kind.readPoint? t.text = some t := Kind.readPoint?_text hread
  have hunique : ∀ u, kind.readPoint? t.text = some u → u = t := fun u hu =>
    Option.some.inj (hu.symm.trans hagain)
  refine ⟨t, hread, (Kind.admits_str_iff temporal).mpr ⟨t, hagain⟩, hagain,
    fun u hu => ⟨hunique u hu, congrArg Temporal.text (hunique u hu)⟩, fun other u hother => ?_⟩
  refine ⟨fun htext => hunique u ?_, congrArg Temporal.text⟩
  rw [← htext]
  exact Kind.readPoint?_text hother

/-- A leap second with more digits than are kept, in lower case and with a minus sign proper, and a
date far ahead with blanks and without zeros. -/
theorem leap_second_round_trips :
    Kind.dateTime.admits (.str "2016-12-31t23:59:60.1234567890\u221201:30") = true ∧
      Kind.date.admits (.str " +262142-1- 2") = true ∧
      (∃ t, Kind.dateTime.readPoint? "2016-12-31t23:59:60.1234567890\u221201:30" = some t ∧
        t.text = "2016-12-31T23:59:60.123456789-01:30" ∧
        Kind.dateTime.readPoint? "2016-12-31T23:59:60.123456789-01:30" = some t) ∧
      ∃ t, Kind.date.readPoint? " +262142-1- 2" = some t ∧ t.text = "+262142-01-02" ∧
        Kind.date.readPoint? "+262142-01-02" = some t := by
  have hleap : Kind.dateTime.admits (.str "2016-12-31t23:59:60.1234567890\u221201:30") = true := by
    decide +kernel
  have hfar : Kind.date.admits (.str " +262142-1- 2") = true := by decide +kernel
  have hleapText : (Kind.dateTime.readPoint? "2016-12-31t23:59:60.1234567890\u221201:30").map
      Temporal.text = some "2016-12-31T23:59:60.123456789-01:30" := by decide +kernel
  have hfarText : (Kind.date.readPoint? " +262142-1- 2").map Temporal.text =
      some "+262142-01-02" := by decide +kernel
  obtain ⟨t, ht, -, hagain, -⟩ := temporal_text_round_trips (by decide) hleap
  obtain ⟨u, hu, -, hagain', -⟩ := temporal_text_round_trips (by decide) hfar
  rw [ht, Option.map_some] at hleapText
  rw [hu, Option.map_some] at hfarText
  have htext := Option.some.inj hleapText
  have hutext := Option.some.inj hfarText
  rw [htext] at hagain
  rw [hutext] at hagain'
  exact ⟨hleap, hfar, ⟨t, ht, htext, hagain⟩, u, hu, hutext, hagain'⟩

end RecordSchema
