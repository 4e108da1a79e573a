import RecordSchema.Proofs.Calendar.RoundTrip

/-!
# The texts of dates and times

A date has the form `YYYY-MM-DD` and a time of day the form `HH:MM:SS`, which a point and a fraction
may follow (`Date.FixedForm`, `TimeOfDay.FixedForm`).  The readers take more than that.  Before each
number there may be blanks, zeros in front may be left out, and with a sign a year may have any
number of digits.  So this file describes how numbers may be written (`WrittenNumber`), and puts
dates and times together from them.

* `Date.read?_eq_some_iff`, `TimeOfDay.read?_eq_some_iff`: the readers take exactly the written
  dates and times, and read them as what their numbers say.
* `WrittenDate.chars_inj`, `WrittenTime.chars_inj`: a text is written in one way only.
* `Date.fixedForm_iff`, `TimeOfDay.fixedForm_iff`: the texts of the fixed form are those that are
  read and have all of their numbers in full (`WrittenNumber.InFull`).
-/

namespace RecordSchema.Calendar

/-! ### The fixed forms -/

/-- A row of exactly `width` digits. -/
def DigitRow (width : Nat) (cs : List Char) : Prop :=
  AllDigits cs ∧ cs.length = width

instance (width : Nat) (cs : List Char) : Decidable (DigitRow width cs) :=
  inferInstanceAs (Decidable (AllDigits cs ∧ cs.length = width))

/-- The form `YYYY-MM-DD`, where the numbers are those of a date. -/
def Date.FixedForm (cs : List Char) : Prop :=
  ∃ years months days, cs = years ++ '-' :: (months ++ '-' :: days) ∧
    DigitRow 4 years ∧ DigitRow 2 months ∧ DigitRow 2 days ∧
    Exists (ofDigits years) (ofDigits months) (ofDigits days)

/-- The form `HH:MM:SS`, which a point and at least one digit may follow, where the numbers are
those of a time. -/
def TimeOfDay.FixedForm (cs : List Char) : Prop :=
  ∃ hours minutes seconds fraction,
    cs = hours ++ ':' :: (minutes ++ ':' :: (seconds ++ fraction)) ∧
    DigitRow 2 hours ∧ DigitRow 2 minutes ∧ DigitRow 2 seconds ∧
    (fraction = [] ∨ ∃ digits, fraction = '.' :: digits ∧ digits ≠ [] ∧ AllDigits digits) ∧
    ofDigits hours ≤ 23 ∧ ofDigits minutes ≤ 59 ∧ ofDigits seconds ≤ 60

theorem Date.FixedForm.length_eq {cs : List Char} (h : FixedForm cs) : cs.length = 10 := by
  obtain ⟨years, months, days, rfl, ⟨-, hyears⟩, ⟨-, hmonths⟩, ⟨-, hdays⟩, -⟩ := h
  simp only [List.length_append, List.length_cons]
  omega

theorem TimeOfDay.FixedForm.le_length {cs : List Char} (h : FixedForm cs) : 8 ≤ cs.length := by
  obtain ⟨hours, minutes, seconds, fraction, rfl, ⟨-, hhours⟩, ⟨-, hminutes⟩, ⟨-, hseconds⟩, -⟩ := h
  simp only [List.length_append, List.length_cons]
  omega

/-! ### Written numbers -/

/-- All characters are blank. -/
def AllBlank (cs : List Char) : Prop :=
  ∀ c ∈ cs, Unicode.isBlank c = true

/-- The sign of a year. -/
inductive Sign where
  | plus
  | minus
deriving DecidableEq, Repr

/-- A sign as it is written. -/
def Sign.char : Sign → Char
  | .plus => '+'
  | .minus => '-'

/-- How a number is written: blanks, perhaps a sign, and digits. -/
@[ext]
structure WrittenNumber where
  blanks : List Char
  sign : Option Sign
  digits : List Char
deriving DecidableEq

namespace WrittenNumber

/-- The sign, if there is one, and the digits. -/
def figures (w : WrittenNumber) : List Char :=
  w.sign.toList.map Sign.char ++ w.digits

/-- The text of a number. -/
def chars (w : WrittenNumber) : List Char :=
  w.blanks ++ w.figures

/-- The number without its sign. -/
def size (w : WrittenNumber) : Nat :=
  ofDigits w.digits

/-- The number with its sign. -/
def signed (w : WrittenNumber) : Int :=
  if w.sign = some .minus then -w.size else w.size

/-- There are digits, and nothing but blanks and perhaps a sign before them. -/
structure Valid (w : WrittenNumber) : Prop where
  blanks : AllBlank w.blanks
  digits : AllDigits w.digits
  nonempty : w.digits ≠ []

/-- A number without a sign, in at most `width` digits. -/
structure IsNumber (width : Nat) (w : WrittenNumber) : Prop extends Valid w where
  unsigned : w.sign = none
  length_le : w.digits.length ≤ width

/-- A year: it has a sign, or at most four digits. -/
structure IsYear (w : WrittenNumber) : Prop extends Valid w where
  length_le : w.sign = none → w.digits.length ≤ 4

/-- All `width` digits are written and nothing else. -/
structure InFull (width : Nat) (w : WrittenNumber) : Prop where
  bare : w.blanks = []
  unsigned : w.sign = none
  length_eq : w.digits.length = width

theorem InFull.chars_eq {width : Nat} {w : WrittenNumber} (h : w.InFull width) :
    w.chars = w.digits := by
  rw [chars, figures, h.bare, h.unsigned]
  rfl

theorem InFull.digitRow {width : Nat} {w : WrittenNumber} (h : w.InFull width) (valid : w.Valid) :
    DigitRow width w.digits :=
  ⟨valid.digits, h.length_eq⟩

end WrittenNumber

/-- A row of digits as a number in full. -/
def DigitRow.number (digits : List Char) : WrittenNumber :=
  ⟨[], none, digits⟩

namespace DigitRow

variable {width : Nat} {digits : List Char}

theorem ne_nil (h : DigitRow width digits) (hwidth : 0 < width) : digits ≠ [] :=
  List.ne_nil_of_length_pos (h.2 ▸ hwidth)

theorem inFull (h : DigitRow width digits) : (number digits).InFull width :=
  ⟨rfl, rfl, h.2⟩

theorem isNumber (h : DigitRow width digits) (hwidth : 0 < width) :
    (number digits).IsNumber width :=
  ⟨⟨by simp [number, AllBlank], h.1, h.ne_nil hwidth⟩, rfl, h.2.le⟩

theorem isYear (h : DigitRow 4 digits) : (number digits).IsYear :=
  ⟨⟨by simp [number, AllBlank], h.1, h.ne_nil (by decide)⟩, fun _ => h.2.le⟩

end DigitRow

/-! ### Reading written numbers -/

theorem skipBlanks_blanks {blanks : List Char} (h : AllBlank blanks) (rest : List Char) :
    skipBlanks (blanks ++ rest) = skipBlanks rest :=
  List.dropWhile_append_of_pos h

theorem exists_blanks (cs : List Char) : ∃ blanks, AllBlank blanks ∧ cs = blanks ++ skipBlanks cs :=
  ⟨cs.takeWhile Unicode.isBlank, fun _ hc => List.mem_takeWhile_imp hc,
    List.takeWhile_append_dropWhile.symm⟩

namespace WrittenNumber

variable {w : WrittenNumber} {rest : List Char}

/-- Before a sign or a digit the blanks end. -/
theorem Valid.skipBlanks_chars (h : w.Valid) (rest : List Char) :
    skipBlanks (w.chars ++ rest) = w.figures ++ rest := by
  rw [chars, List.append_assoc, skipBlanks_blanks h.blanks, figures]
  match w.sign with
  | none => exact skipBlanks_append h.nonempty h.digits rest
  | some .plus => rfl
  | some .minus => rfl

theorem IsNumber.number_eq {width : Nat} (h : w.IsNumber width) (hends : EndsDigits rest) :
    number width (skipBlanks (w.chars ++ rest)) = some (w.size, rest) := by
  rw [h.skipBlanks_chars, figures, h.unsigned]
  exact number_append h.digits h.nonempty h.length_le (Or.inr hends)

theorem IsYear.readYear_eq (h : w.IsYear) (hends : EndsDigits rest) :
    Date.readYear (skipBlanks (w.chars ++ rest)) = some (w.signed, rest) := by
  have hsigned : number (w.digits ++ rest).length (w.digits ++ rest) = some (w.size, rest) :=
    number_append h.digits h.nonempty (by simp) (Or.inr hends)
  rw [h.skipBlanks_chars, figures]
  match hsign : w.sign with
  | none =>
    have hyear : w.signed = w.size := if_neg (by simp [hsign])
    have hunsigned : number 4 (w.digits ++ rest) = some (w.size, rest) :=
      number_append h.digits h.nonempty (h.length_le hsign) (Or.inr hends)
    change Date.readYear (w.digits ++ rest) = _
    rw [Date.readYear_append h.digits h.nonempty, hunsigned, hyear, Option.map_some]
  | some .plus =>
    have hyear : w.signed = w.size := if_neg (by simp [hsign])
    change Date.readYear ('+' :: (w.digits ++ rest)) = _
    rw [Date.readYear, hsigned, hyear, Option.map_some]
  | some .minus =>
    have hyear : w.signed = -w.size := if_pos hsign
    change Date.readYear ('-' :: (w.digits ++ rest)) = _
    rw [Date.readYear, hsigned, hyear, Option.map_some]

end WrittenNumber

theorem exists_written_of_number {width n : Nat} {cs rest : List Char}
    (h : number width (skipBlanks cs) = some (n, rest)) :
    ∃ w : WrittenNumber, w.IsNumber width ∧ n = w.size ∧ cs = w.chars ++ rest := by
  obtain ⟨blanks, hblanks, hcs⟩ := exists_blanks cs
  obtain ⟨digits, hdigits, hne, hlength, hskip, rfl⟩ := exists_of_number h
  refine ⟨⟨blanks, none, digits⟩, ⟨⟨hblanks, hdigits, hne⟩, rfl, hlength⟩, rfl, ?_⟩
  rw [hcs, hskip]
  simp [WrittenNumber.chars, WrittenNumber.figures]

theorem exists_written_of_readYear {y : Int} {cs rest : List Char}
    (h : Date.readYear (skipBlanks cs) = some (y, rest)) :
    ∃ w : WrittenNumber, w.IsYear ∧ y = w.signed ∧ cs = w.chars ++ rest := by
  obtain ⟨blanks, hblanks, hcs⟩ := exists_blanks cs
  -- A number after a sign that has been read; without one there are at most four digits.
  have hwritten (sign : Option Sign) {width n : Nat} {signed : List Char}
      (hskip : skipBlanks cs = sign.toList.map Sign.char ++ signed)
      (hnumber : number width signed = some (n, rest)) (hwidth : sign = none → width ≤ 4) :
      ∃ w : WrittenNumber, w.IsYear ∧ (if sign = some .minus then -(n : Int) else n) = w.signed ∧
        cs = w.chars ++ rest := by
    obtain ⟨digits, hdigits, hne, hlength, rfl, rfl⟩ := exists_of_number hnumber
    refine ⟨⟨blanks, sign, digits⟩, ⟨⟨hblanks, hdigits, hne⟩, fun hsign => ?_⟩, rfl, ?_⟩
    · exact hlength.trans (hwidth hsign)
    · rw [hcs, hskip]
      simp [WrittenNumber.chars, WrittenNumber.figures]
  rw [Date.readYear.eq_def] at h
  split at h
  · next cs' hminus =>
    obtain ⟨⟨n, rest'⟩, hnumber, hpair⟩ := Option.map_eq_some_iff.mp h
    cases hpair
    exact hwritten (some .minus) hminus hnumber nofun
  · next cs' hplus =>
    obtain ⟨⟨n, rest'⟩, hnumber, hpair⟩ := Option.map_eq_some_iff.mp h
    cases hpair
    exact hwritten (some .plus) hplus hnumber nofun
  · obtain ⟨⟨n, rest'⟩, hnumber, hpair⟩ := Option.map_eq_some_iff.mp h
    cases hpair
    exact hwritten none rfl hnumber fun _ => le_rfl

/-! ### Written numbers are told apart -/

/-- Where no digit follows, a row of digits is told apart from what follows it. -/
theorem AllDigits.append_inj {digits others rest rest' : List Char} (hdigits : AllDigits digits)
    (hothers : AllDigits others) (hends : EndsDigits rest) (hends' : EndsDigits rest')
    (h : digits ++ rest = others ++ rest') : digits = others ∧ rest = rest' := by
  have hfront : frontDigits (digits ++ rest).length (digits ++ rest) = digits :=
    frontDigits_append hdigits (by simp) (Or.inr hends)
  have hfront' : frontDigits (others ++ rest').length (others ++ rest') = others :=
    frontDigits_append hothers (by simp) (Or.inr hends')
  rw [h, hfront'] at hfront
  rw [hfront] at h
  exact ⟨hfront.symm, List.append_cancel_left h⟩

theorem Sign.char_inj {s t : Sign} (h : s.char = t.char) : s = t := by
  cases s <;> cases t <;> first | rfl | exact absurd h (by decide)

theorem Sign.isDigit_char (s : Sign) : s.char.isDigit = false := by
  cases s <;> rfl

namespace WrittenNumber

variable {v w : WrittenNumber} {rest rest' : List Char}

/-- A digit is no sign, so the sign is told apart from the digits. -/
theorem Valid.figures_inj (hv : v.Valid) (hw : w.Valid)
    (h : v.figures ++ rest = w.figures ++ rest') :
    v.sign = w.sign ∧ v.digits ++ rest = w.digits ++ rest' := by
  have hunsigned {s : Sign} {digits cs more : List Char} (hdigits : AllDigits digits)
      (hne : digits ≠ []) (h : digits ++ cs = s.char :: more) : False := by
    cases digits with
    | nil => exact hne rfl
    | cons c digits =>
      have hc : c.isDigit = true := hdigits c List.mem_cons_self
      rw [(List.cons.inj h).1, s.isDigit_char] at hc
      cases hc
  rw [figures, figures] at h
  match hs : v.sign, ht : w.sign with
  | none, none =>
    rw [hs, ht] at h
    exact ⟨rfl, h⟩
  | none, some t =>
    rw [hs, ht] at h
    exact (hunsigned hv.digits hv.nonempty h).elim
  | some s, none =>
    rw [hs, ht] at h
    exact (hunsigned hw.digits hw.nonempty h.symm).elim
  | some s, some t =>
    rw [hs, ht] at h
    obtain ⟨hchar, htail⟩ := List.cons.inj h
    exact ⟨congrArg some (Sign.char_inj hchar), htail⟩

theorem Valid.append_inj (hv : v.Valid) (hw : w.Valid) (hends : EndsDigits rest)
    (hends' : EndsDigits rest') (h : v.chars ++ rest = w.chars ++ rest') :
    v = w ∧ rest = rest' := by
  have hfigures : v.figures ++ rest = w.figures ++ rest' := by
    rw [← hv.skipBlanks_chars, ← hw.skipBlanks_chars, h]
  have hblanks : v.blanks = w.blanks := by
    rw [chars, chars, List.append_assoc, List.append_assoc, hfigures] at h
    exact List.append_cancel_right h
  obtain ⟨hsign, hafter⟩ := hv.figures_inj hw hfigures
  obtain ⟨hdigits, hrest⟩ := hv.digits.append_inj hw.digits hends hends' hafter
  exact ⟨WrittenNumber.ext hblanks hsign hdigits, hrest⟩

theorem Valid.chars_inj (hv : v.Valid) (hw : w.Valid) (h : v.chars = w.chars) : v = w := by
  have happend : v.chars ++ [] = w.chars ++ [] := congrArg (· ++ []) h
  exact (hv.append_inj hw .nil .nil happend).1

end WrittenNumber

/-! ### Written dates -/

/-- How a date is written: its numbers, with hyphens between them. -/
@[ext]
structure WrittenDate where
  year : WrittenNumber
  month : WrittenNumber
  day : WrittenNumber
deriving DecidableEq

namespace WrittenDate

/-- The text of a date. -/
def chars (w : WrittenDate) : List Char :=
  w.year.chars ++ '-' :: (w.month.chars ++ '-' :: w.day.chars)

/-- The numbers are written as those of dates may be, and a date has them. -/
structure Denotes (w : WrittenDate) (d : Date) : Prop where
  year : w.year.IsYear
  month : w.month.IsNumber 2
  day : w.day.IsNumber 2
  year_eq : d.year = w.year.signed
  month_eq : d.month = w.month.size
  day_eq : d.day = w.day.size

/-- All numbers are in full. -/
structure InFull (w : WrittenDate) : Prop where
  year : w.year.InFull 4
  month : w.month.InFull 2
  day : w.day.InFull 2

/-- **A text is written in one way as a date.** -/
theorem chars_inj {v w : WrittenDate} {d e : Date} (hv : v.Denotes d) (hw : w.Denotes e)
    (h : v.chars = w.chars) : v = w := by
  obtain ⟨hyear, hafter⟩ := hv.year.append_inj hw.year.toValid (.cons rfl _) (.cons rfl _) h
  obtain ⟨hmonth, hrest⟩ := hv.month.append_inj hw.month.toValid (.cons rfl _) (.cons rfl _)
    (List.cons.inj hafter).2
  have hday := hv.day.chars_inj hw.day.toValid (List.cons.inj hrest).2
  exact WrittenDate.ext hyear hmonth hday

end WrittenDate

/-- **What is read as a date is what is written as one.** -/
theorem Date.read?_eq_some_iff {cs : List Char} {d : Date} :
    read? cs = some d ↔ ∃ w : WrittenDate, w.Denotes d ∧ w.chars = cs := by
  constructor
  · intro h
    rw [read?] at h
    split at h
    · next date hfront =>
      cases h
      simp only [readFront, Option.bind_eq_bind, Option.bind_eq_some_iff] at hfront
      obtain ⟨⟨y, _⟩, hyear, _, hfirst, ⟨m, _⟩, hmonth, _, hsecond, ⟨n, _⟩, hday, _, hdate,
        hpair⟩ := hfront
      cases hpair
      obtain ⟨year, hy, rfl, rfl⟩ := exists_written_of_readYear hyear
      obtain rfl := eq_cons_of_expect hfirst
      obtain ⟨month, hm, rfl, rfl⟩ := exists_written_of_number hmonth
      obtain rfl := eq_cons_of_expect hsecond
      obtain ⟨day, hd, rfl, rfl⟩ := exists_written_of_number hday
      obtain ⟨hdyear, hdmonth, hdday⟩ := of?_eq_some_iff.mp hdate
      refine ⟨⟨year, month, day⟩, ⟨hy, hm, hd, hdyear, hdmonth, hdday⟩, ?_⟩
      rw [List.append_nil]
      rfl
    · cases h
  · rintro ⟨w, hw, rfl⟩
    have hmonth : number 2 (skipBlanks (w.month.chars ++ '-' :: w.day.chars)) =
        some (w.month.size, '-' :: w.day.chars) := hw.month.number_eq (.cons rfl _)
    have hday := hw.day.number_eq .nil
    rw [List.append_nil] at hday
    have hdate : of? w.year.signed w.month.size w.day.size = some d :=
      of?_eq_some_iff.mpr ⟨hw.year_eq, hw.month_eq, hw.day_eq⟩
    have hfront : readFront w.chars = some (d, []) := by
      rw [readFront, WrittenDate.chars, hw.year.readYear_eq (.cons rfl _)]
      simp only [Option.bind_eq_bind, Option.bind_some, expect_cons, hmonth, hday, hdate]
      rfl
    rw [read?, hfront]

/-- **The fixed form is that of dates with all numbers in full.** -/
theorem Date.fixedForm_iff {cs : List Char} :
    FixedForm cs ↔ ∃ (d : Date) (w : WrittenDate), w.Denotes d ∧ w.chars = cs ∧ w.InFull := by
  constructor
  · rintro ⟨years, months, days, rfl, hyears, hmonths, hdays, hexists⟩
    refine ⟨⟨_, _, _, hexists⟩, ⟨DigitRow.number years, DigitRow.number months,
      DigitRow.number days⟩, ?_, rfl, hyears.inFull, hmonths.inFull, hdays.inFull⟩
    exact ⟨hyears.isYear, hmonths.isNumber (by decide), hdays.isNumber (by decide), rfl, rfl, rfl⟩
  · rintro ⟨d, w, hw, rfl, hfull⟩
    have hyear : w.year.signed = w.year.size := if_neg (by simp [hfull.year.unsigned])
    refine ⟨w.year.digits, w.month.digits, w.day.digits, ?_, hfull.year.digitRow hw.year.toValid,
      hfull.month.digitRow hw.month.toValid, hfull.day.digitRow hw.day.toValid, ?_⟩
    · rw [WrittenDate.chars, hfull.year.chars_eq, hfull.month.chars_eq, hfull.day.chars_eq]
    · have hexists := d.isDate
      rw [hw.year_eq, hw.month_eq, hw.day_eq, hyear] at hexists
      exact hexists

/-- As there is one way of writing a date, its numbers are in full in the fixed form only. -/
theorem Date.fixedForm_iff_forall {cs : List Char} :
    FixedForm cs ↔ (∃ (d : Date) (w : WrittenDate), w.Denotes d ∧ w.chars = cs) ∧
      ∀ (d : Date) (w : WrittenDate), w.Denotes d → w.chars = cs → w.InFull := by
  rw [fixedForm_iff]
  constructor
  · rintro ⟨d, w, hw, hchars, hfull⟩
    refine ⟨⟨d, w, hw, hchars⟩, fun e v hv hsame => ?_⟩
    rw [WrittenDate.chars_inj hv hw (hsame.trans hchars.symm)]
    exact hfull
  · rintro ⟨⟨d, w, hw, hchars⟩, hfull⟩
    exact ⟨d, w, hw, hchars, hfull d w hw hchars⟩

/-! ### Written times -/

/-- A fraction as it is written: a point and digits. -/
def fractionChars : Option (List Char) → List Char
  | none => []
  | some digits => '.' :: digits

/-- The nanoseconds of a fraction; digits past the ninth do not count. -/
def nanoseconds : Option (List Char) → Nat
  | none => 0
  | some digits =>
    ofDigits (digits.take fractionPlaces) *
      10 ^ (fractionPlaces - (digits.take fractionPlaces).length)

/-- If there is a fraction, it is a row of at least one digit. -/
def IsFraction (fraction : Option (List Char)) : Prop :=
  ∀ digits ∈ fraction, AllDigits digits ∧ digits ≠ []

theorem isFraction_none : IsFraction none :=
  fun _ h => absurd h (Option.not_mem_none _)

theorem isFraction_some {digits : List Char} :
    IsFraction (some digits) ↔ AllDigits digits ∧ digits ≠ [] := by
  simp [IsFraction]

theorem fractionChars_inj {f g : Option (List Char)} (h : fractionChars f = fractionChars g) :
    f = g := by
  cases f <;> cases g <;> simp_all [fractionChars]

theorem endsDigits_fractionChars (f : Option (List Char)) : EndsDigits (fractionChars f) := by
  cases f with
  | none => exact .nil
  | some digits => exact .cons rfl digits

theorem nanoseconds_lt {f : Option (List Char)} (h : IsFraction f) :
    nanoseconds f < secondTicks := by
  cases f with
  | none => decide
  | some digits =>
    have hdigits : AllDigits (digits.take fractionPlaces) := fun c hc =>
      (h digits rfl).1 c (List.mem_of_mem_take hc)
    have hlength : (digits.take fractionPlaces).length ≤ fractionPlaces := List.length_take_le _ _
    have hticks : secondTicks = 10 ^ (digits.take fractionPlaces).length *
        10 ^ (fractionPlaces - (digits.take fractionPlaces).length) := by
      rw [← Nat.pow_add, Nat.add_sub_cancel' hlength]
      rfl
    rw [nanoseconds, hticks]
    exact Nat.mul_lt_mul_of_pos_right (ofDigits_lt hdigits) (Nat.pow_pos (by decide))

/-- **What is read as a fraction to the end is what is written as one.** -/
theorem optionalFraction_eq_some_iff {cs : List Char} {n : Nat} :
    optionalFraction cs = some (n, []) ↔
      ∃ f, IsFraction f ∧ n = nanoseconds f ∧ fractionChars f = cs := by
  -- In a row of digits, those that are kept are the first ones.
  have hfront {digits : List Char} (h : AllDigits digits) :
      frontDigits fractionPlaces digits = digits.take fractionPlaces :=
    List.takeWhile_eq_self_iff.mpr fun c hc => h c (List.mem_of_mem_take hc)
  constructor
  · intro h
    rw [optionalFraction.eq_def] at h
    split at h
    · next digits =>
      rw [fraction] at h
      split at h
      · cases h
      · next hne =>
        obtain ⟨rfl, hrest⟩ := Prod.mk.inj (Option.some.inj h)
        have hdigits : AllDigits digits := List.dropWhile_eq_nil_iff.mp hrest
        refine ⟨some digits, isFraction_some.mpr ⟨hdigits, ?_⟩, ?_, rfl⟩
        · rintro rfl
          exact hne rfl
        · rw [hfront hdigits]
          rfl
    · cases h
      exact ⟨none, isFraction_none, rfl, rfl⟩
  · rintro ⟨f, hf, rfl, rfl⟩
    cases f with
    | none => rfl
    | some digits =>
      obtain ⟨hdigits, hne⟩ := isFraction_some.mp hf
      have htake : digits.take fractionPlaces ≠ [] := by
        cases digits with
        | nil => exact absurd rfl hne
        | cons c digits => simp [fractionPlaces]
      have hrest : digits.dropWhile Char.isDigit = [] := List.dropWhile_eq_nil_iff.mpr hdigits
      rw [fractionChars, optionalFraction, fraction, hfront hdigits, hrest]
      exact if_neg (by simpa using htake)

/-- How a time is written: its numbers, with colons between them, and perhaps a fraction. -/
@[ext]
structure WrittenTime where
  hour : WrittenNumber
  minute : WrittenNumber
  second : WrittenNumber
  fraction : Option (List Char)
deriving DecidableEq

namespace WrittenTime

/-- The text of a time. -/
def chars (w : WrittenTime) : List Char :=
  w.hour.chars ++ ':' :: (w.minute.chars ++ ':' :: (w.second.chars ++ fractionChars w.fraction))

/-- The numbers are written as those of times may be, and a time has them. -/
structure Denotes (w : WrittenTime) (t : TimeOfDay) : Prop where
  hour : w.hour.IsNumber 2
  minute : w.minute.IsNumber 2
  second : w.second.IsNumber 2
  fraction : IsFraction w.fraction
  hour_eq : t.hour = w.hour.size
  minute_eq : t.minute = w.minute.size
  second_eq : t.second = w.second.size
  nanosecond_eq : t.nanosecond = nanoseconds w.fraction

/-- All numbers are in full. -/
structure InFull (w : WrittenTime) : Prop where
  hour : w.hour.InFull 2
  minute : w.minute.InFull 2
  second : w.second.InFull 2

/-- **A text is written in one way as a time.** -/
theorem chars_inj {v w : WrittenTime} {t u : TimeOfDay} (hv : v.Denotes t) (hw : w.Denotes u)
    (h : v.chars = w.chars) : v = w := by
  obtain ⟨hhour, hafter⟩ := hv.hour.append_inj hw.hour.toValid (.cons rfl _) (.cons rfl _) h
  obtain ⟨hminute, hrest⟩ := hv.minute.append_inj hw.minute.toValid (.cons rfl _) (.cons rfl _)
    (List.cons.inj hafter).2
  obtain ⟨hsecond, hfraction⟩ := hv.second.append_inj hw.second.toValid
    (endsDigits_fractionChars _) (endsDigits_fractionChars _) (List.cons.inj hrest).2
  exact WrittenTime.ext hhour hminute hsecond (fractionChars_inj hfraction)

end WrittenTime

/-- **What is read as a time is what is written as one.** -/
theorem TimeOfDay.read?_eq_some_iff {cs : List Char} {t : TimeOfDay} :
    read? cs = some t ↔ ∃ w : WrittenTime, w.Denotes t ∧ w.chars = cs := by
  constructor
  · intro h
    simp only [read?, Option.bind_eq_bind, Option.bind_eq_some_iff] at h
    obtain ⟨⟨m, _⟩, hhour, _, hfirst, ⟨n, _⟩, hminute, _, hsecond, ⟨k, _⟩, hthird,
      ⟨l, rest⟩, hfraction, h⟩ := h
    split at h
    · next hempty =>
      obtain rfl : rest = [] := List.isEmpty_iff.mp hempty
      obtain ⟨hour, hh, rfl, rfl⟩ := exists_written_of_number hhour
      obtain rfl := eq_cons_of_expect hfirst
      obtain ⟨minute, hm, rfl, rfl⟩ := exists_written_of_number hminute
      obtain rfl := eq_cons_of_expect hsecond
      obtain ⟨second, hs, rfl, rfl⟩ := exists_written_of_number hthird
      obtain ⟨f, hf, rfl, rfl⟩ := optionalFraction_eq_some_iff.mp hfraction
      obtain ⟨hthour, htminute, htsecond, htnano⟩ := of?_eq_some_iff.mp h
      exact ⟨⟨hour, minute, second, f⟩, ⟨hh, hm, hs, hf, hthour, htminute, htsecond, htnano⟩, rfl⟩
    · cases h
  · rintro ⟨w, hw, rfl⟩
    have hhour : number 2 (skipBlanks w.chars) = some (w.hour.size, _) :=
      hw.hour.number_eq (.cons rfl _)
    have hminute : number 2 (skipBlanks (w.minute.chars ++ ':' :: (w.second.chars ++
        fractionChars w.fraction))) = some (w.minute.size, _) := hw.minute.number_eq (.cons rfl _)
    have hsecond : number 2 (skipBlanks (w.second.chars ++ fractionChars w.fraction)) =
        some (w.second.size, _) := hw.second.number_eq (endsDigits_fractionChars _)
    have hfraction : optionalFraction (fractionChars w.fraction) =
        some (nanoseconds w.fraction, []) :=
      optionalFraction_eq_some_iff.mpr ⟨_, hw.fraction, rfl, rfl⟩
    have htime : of? w.hour.size w.minute.size w.second.size (nanoseconds w.fraction) = some t :=
      of?_eq_some_iff.mpr ⟨hw.hour_eq, hw.minute_eq, hw.second_eq, hw.nanosecond_eq⟩
    rw [read?, hhour]
    simp only [Option.bind_eq_bind, Option.bind_some, expect_cons, hminute, hsecond, hfraction,
      htime]
    rfl

/-- **The fixed form is that of times with all numbers in full.** -/
theorem TimeOfDay.fixedForm_iff {cs : List Char} :
    FixedForm cs ↔ ∃ (t : TimeOfDay) (w : WrittenTime), w.Denotes t ∧ w.chars = cs ∧ w.InFull := by
  constructor
  · rintro ⟨hours, minutes, seconds, fraction, rfl, hhours, hminutes, hseconds, hfraction, hh, hm,
      hs⟩
    obtain ⟨f, hf, rfl⟩ : ∃ f, IsFraction f ∧ fraction = fractionChars f := by
      rcases hfraction with rfl | ⟨digits, rfl, hne, hdigits⟩
      · exact ⟨none, isFraction_none, rfl⟩
      · exact ⟨some digits, isFraction_some.mpr ⟨hdigits, hne⟩, rfl⟩
    refine ⟨⟨_, _, _, _, hh, hm, hs, nanoseconds_lt hf⟩, ⟨DigitRow.number hours,
      DigitRow.number minutes, DigitRow.number seconds, f⟩, ?_, rfl, hhours.inFull,
      hminutes.inFull, hseconds.inFull⟩
    exact ⟨hhours.isNumber (by decide), hminutes.isNumber (by decide),
      hseconds.isNumber (by decide), hf, rfl, rfl, rfl, rfl⟩
  · rintro ⟨t, w, hw, rfl, hfull⟩
    obtain ⟨hh, hm, hs, -⟩ := t.isTime
    rw [hw.hour_eq] at hh
    rw [hw.minute_eq] at hm
    rw [hw.second_eq] at hs
    refine ⟨w.hour.digits, w.minute.digits, w.second.digits, fractionChars w.fraction, ?_,
      hfull.hour.digitRow hw.hour.toValid, hfull.minute.digitRow hw.minute.toValid,
      hfull.second.digitRow hw.second.toValid, ?_, hh, hm, hs⟩
    · rw [WrittenTime.chars, hfull.hour.chars_eq, hfull.minute.chars_eq, hfull.second.chars_eq]
    · cases hf : w.fraction with
      | none => exact Or.inl rfl
      | some digits =>
        obtain ⟨hdigits, hne⟩ := hw.fraction digits hf
        exact Or.inr ⟨digits, rfl, hne, hdigits⟩

theorem TimeOfDay.fixedForm_iff_forall {cs : List Char} :
    FixedForm cs ↔ (∃ (t : TimeOfDay) (w : WrittenTime), w.Denotes t ∧ w.chars = cs) ∧
      ∀ (t : TimeOfDay) (w : WrittenTime), w.Denotes t → w.chars = cs → w.InFull := by
  rw [fixedForm_iff]
  constructor
  · rintro ⟨t, w, hw, hchars, hfull⟩
    refine ⟨⟨t, w, hw, hchars⟩, fun u v hv hsame => ?_⟩
    rw [WrittenTime.chars_inj hv hw (hsame.trans hchars.symm)]
    exact hfull
  · rintro ⟨⟨t, w, hw, hchars⟩, hfull⟩
    exact ⟨t, w, hw, hchars, hfull t w hw hchars⟩

end RecordSchema.Calendar
