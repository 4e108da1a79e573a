import Mathlib
import RecordSchema.Calendar.Digits

/-!
# Numbers with zeros in front

A number that is written with zeros in front is read back by every reader of digits, as long as the
reader may take all of its digits and no digit follows them (`EndsDigits`).  The readers of this
library are all of the form "take some digits and give the rest back", so each of them has one lemma
for a row of digits with a rest.

* `padded_isDigit`, `length_padded`, `ofDigits_padded`: what is written.
* `frontDigits_append`, `number_append`, `fixed_append`, `fraction_append`: how it is read.
* `exists_of_number`, `exists_of_fixed`: what was read stood in front.
* `ofDigits_lt`: a row of digits stands for a number of at most that many places.
-/

namespace RecordSchema.Calendar

/-! ### Rows of digits -/

/-- All characters are decimal digits. -/
def AllDigits (cs : List Char) : Prop :=
  ∀ c ∈ cs, c.isDigit = true

instance (cs : List Char) : Decidable (AllDigits cs) :=
  decidable_of_iff (cs.all Char.isDigit = true) List.all_eq_true

/-- No digit stands at the front. -/
def EndsDigits (cs : List Char) : Prop :=
  ∀ c ∈ cs.head?, c.isDigit = false

theorem EndsDigits.nil : EndsDigits [] := nofun

theorem EndsDigits.cons {c : Char} (h : c.isDigit = false) (cs : List Char) :
    EndsDigits (c :: cs) := by
  intro d hd
  cases hd
  exact h

theorem isDigit_iff {c : Char} : c.isDigit = true ↔ 48 ≤ c.toNat ∧ c.toNat ≤ 57 := by
  rw [Char.isDigit, Bool.and_eq_true, decide_eq_true_iff, decide_eq_true_iff]
  exact Iff.rfl

theorem isBlank_of_isDigit {c : Char} (h : c.isDigit = true) : Unicode.isBlank c = false := by
  obtain ⟨hlow, hhigh⟩ := isDigit_iff.mp h
  have hranges : ∀ range ∈ Unicode.blankRanges, range.2 < 48 ∨ 57 < range.1 := by decide
  rw [Unicode.isBlank, List.any_eq_false]
  intro range hrange hin
  have hbounds : range.1 ≤ c.toNat ∧ c.toNat ≤ range.2 := by
    simpa using hin
  have hapart := hranges range hrange
  omega

theorem skipBlanks_append {digits : List Char} (hne : digits ≠ []) (hdigits : AllDigits digits)
    (rest : List Char) : skipBlanks (digits ++ rest) = digits ++ rest := by
  cases digits with
  | nil => exact absurd rfl hne
  | cons c cs =>
    have hblank : Unicode.isBlank c = false := isBlank_of_isDigit (hdigits c List.mem_cons_self)
    rw [skipBlanks, List.cons_append, List.dropWhile_cons, hblank]
    rfl

/-! ### Reading digits -/

section

variable {digits rest : List Char} {width : Nat} (hdigits : AllDigits digits)
include hdigits

/-- The digits at the front are taken if there is room for them, and nothing more if there is no
more room or no digit follows. -/
theorem frontDigits_append (hlength : digits.length ≤ width)
    (hends : digits.length = width ∨ EndsDigits rest) :
    frontDigits width (digits ++ rest) = digits := by
  have hrest : (rest.take (width - digits.length)).takeWhile Char.isDigit = [] := by
    rcases hends with hfull | hends
    · rw [hfull, Nat.sub_self, List.take_zero, List.takeWhile_nil]
    · cases rest with
      | nil => rw [List.take_nil, List.takeWhile_nil]
      | cons c cs =>
        have hc : c.isDigit = false := hends c rfl
        cases width - digits.length with
        | zero => rfl
        | succ n => rw [List.take_succ_cons, List.takeWhile_cons, hc]; rfl
  rw [frontDigits, List.take_append, List.take_of_length_le hlength,
    List.takeWhile_append_of_pos hdigits, hrest, List.append_nil]

theorem number_append (hne : digits ≠ []) (hlength : digits.length ≤ width)
    (hends : digits.length = width ∨ EndsDigits rest) :
    number width (digits ++ rest) = some (ofDigits digits, rest) := by
  have hfront := frontDigits_append hdigits hlength hends
  simp only [number, hfront, List.isEmpty_iff, if_neg hne, List.drop_left]

theorem fixed_append (hlength : digits.length = width) :
    fixed width (digits ++ rest) = some (ofDigits digits, rest) := by
  have hfront : frontDigits width (digits ++ rest) = digits :=
    frontDigits_append hdigits hlength.le (Or.inl hlength)
  simp only [fixed, hfront, hlength, if_true]
  rw [← hlength, List.drop_left]

/-- A fraction is read as nanoseconds, with as many places as it lacks. -/
theorem fraction_append (hne : digits ≠ []) (hlength : digits.length ≤ fractionPlaces)
    (hends : EndsDigits rest) :
    fraction (digits ++ rest) =
      some (ofDigits digits * 10 ^ (fractionPlaces - digits.length), rest) := by
  have hfront := frontDigits_append hdigits hlength (Or.inr hends)
  have hdrop : (digits ++ rest).dropWhile Char.isDigit = rest := by
    rw [List.dropWhile_append_of_pos hdigits]
    cases rest with
    | nil => rfl
    | cons c cs => rw [List.dropWhile_cons, hends c rfl]; rfl
  simp only [fraction, hfront, List.isEmpty_iff, if_neg hne, hdrop]
  rfl

end

theorem expect_cons (c : Char) (rest : List Char) : expect c (c :: rest) = some rest :=
  if_pos rfl

/-! ### Numbers as digits -/

theorem ofDigits_eq (digits : List Char) : ofDigits digits = Nat.ofDigitChars 10 digits 0 := by
  rw [Nat.ofDigitChars_eq_foldl]
  rfl

theorem ofDigits_lt {digits : List Char} (hdigits : AllDigits digits) :
    ofDigits digits < 10 ^ digits.length := by
  rw [ofDigits_eq]
  induction digits with
  | nil => decide
  | cons c cs ih =>
    have hc := isDigit_iff.mp (hdigits c List.mem_cons_self)
    have hcs := ih fun d hd => hdigits d (List.mem_cons_of_mem c hd)
    rw [Nat.ofDigitChars_cons, Nat.ofDigitChars_eq_ofDigitChars_zero, List.length_cons,
      Nat.pow_succ]
    have hvalue : c.toNat - '0'.toNat ≤ 9 := by
      have hzero : '0'.toNat = 48 := rfl
      omega
    have hmul : 10 ^ cs.length * (10 * 0 + (c.toNat - '0'.toNat)) ≤ 10 ^ cs.length * 9 :=
      Nat.mul_le_mul_left _ (by omega)
    omega

theorem frontDigits_isDigit (width : Nat) (cs : List Char) : AllDigits (frontDigits width cs) :=
  fun _ hc => List.mem_takeWhile_imp hc

theorem frontDigits_append_drop (width : Nat) (cs : List Char) :
    frontDigits width cs ++ cs.drop (frontDigits width cs).length = cs :=
  List.prefix_iff_eq_append.mp ((List.takeWhile_prefix _).trans (List.take_prefix _ _))

/-- What was read as a number stood in front, in at least one digit. -/
theorem exists_of_number {width n : Nat} {cs rest : List Char}
    (h : number width cs = some (n, rest)) :
    ∃ digits, AllDigits digits ∧ digits ≠ [] ∧ digits.length ≤ width ∧ cs = digits ++ rest ∧
      n = ofDigits digits := by
  simp only [number] at h
  split at h
  · cases h
  · next hne =>
    obtain ⟨rfl, rfl⟩ := Prod.mk.inj (Option.some.inj h)
    refine ⟨_, frontDigits_isDigit width cs, fun hnil => hne (List.isEmpty_iff.mpr hnil), ?_,
      (frontDigits_append_drop width cs).symm, rfl⟩
    exact ((List.takeWhile_prefix _).length_le).trans (List.length_take_le width cs)

theorem exists_of_fixed {width n : Nat} {cs rest : List Char}
    (h : fixed width cs = some (n, rest)) :
    ∃ digits, AllDigits digits ∧ digits.length = width ∧ cs = digits ++ rest ∧
      n = ofDigits digits := by
  simp only [fixed] at h
  split at h
  · next hlength =>
    obtain ⟨rfl, rfl⟩ := Prod.mk.inj (Option.some.inj h)
    refine ⟨_, frontDigits_isDigit width cs, hlength, ?_, rfl⟩
    nth_rewrite 2 [← hlength]
    exact (frontDigits_append_drop width cs).symm
  · cases h

theorem eq_cons_of_expect {c : Char} {cs rest : List Char} (h : expect c cs = some rest) :
    cs = c :: rest := by
  cases cs with
  | nil => cases h
  | cons d cs =>
    rw [expect] at h
    split at h
    · next hd =>
      cases h
      rw [hd]
    · cases h

section

variable (width n : Nat)

theorem padded_isDigit : AllDigits (padded width n) := by
  intro c hc
  rcases List.mem_append.mp hc with hc | hc
  · rw [List.eq_of_mem_replicate hc]
    rfl
  · exact Nat.isDigit_of_mem_toDigits (by decide) (by decide) hc

theorem padded_ne_nil : padded width n ≠ [] :=
  List.append_ne_nil_of_right_ne_nil _ Nat.toDigits_ne_nil

theorem ofDigits_padded : ofDigits (padded width n) = n := by
  rw [ofDigits_eq, padded, Nat.ofDigitChars_append, Nat.ofDigitChars_replicate_zero, Nat.mul_zero,
    Nat.ofDigitChars_ten_toDigits]

variable {width n}

theorem length_padded (hwidth : 0 < width) (hn : n < 10 ^ width) :
    (padded width n).length = width := by
  have hlength : (Nat.toDigits 10 n).length ≤ width :=
    (Nat.length_toDigits_le_iff (by decide) hwidth).mpr hn
  rw [padded, List.length_append, List.length_replicate]
  omega

end

/-! ### Written numbers are read back -/

theorem skipBlanks_padded (width n : Nat) (rest : List Char) :
    skipBlanks (padded width n ++ rest) = padded width n ++ rest :=
  skipBlanks_append (padded_ne_nil width n) (padded_isDigit width n) rest

theorem number_padded {width n : Nat} (hwidth : 0 < width) (hn : n < 10 ^ width)
    (rest : List Char) : number width (padded width n ++ rest) = some (n, rest) := by
  have hlength := length_padded hwidth hn
  rw [number_append (padded_isDigit width n) (padded_ne_nil width n) hlength.le (Or.inl hlength),
    ofDigits_padded]

theorem fixed_padded {width n : Nat} (hwidth : 0 < width) (hn : n < 10 ^ width)
    (rest : List Char) : fixed width (padded width n ++ rest) = some (n, rest) := by
  rw [fixed_append (padded_isDigit width n) (length_padded hwidth hn), ofDigits_padded]

end RecordSchema.Calendar
