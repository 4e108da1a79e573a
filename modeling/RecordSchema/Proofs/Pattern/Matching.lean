import Mathlib
import RecordSchema.Pattern.Search

/-!
# The matcher and the relation of matches

`Pattern/Search.lean` follows a set of places through an expression, and `Expression.Matches` says
which stretches of a text an expression matches.  This file joins them: `testBit_ends` says that the
places where the matcher ends are those at which some match that begins in the given set ends.

A repetition is the only case with an argument of its own.  `Times` is the repeated relation, in
which `repeated_iff` counts the rounds.  The matcher runs the required rounds by `settle`, which is
plain iteration (`settle_eq_iterate`), and then at most as many optional ones as the text has
places; no more are needed, since a match never ends before it begins and so a round that is worth
taking moves on (`Times.shorten`).

The bounds of a repetition must be in order, `least ≤ most`, for both to agree (`InOrder`).
-/

namespace RecordSchema.Pattern

open Unicode

/-! ### Sets of places -/

theorem testBit_placesWhere (p : Place → Bool) (before : Option Char) (text : List Char) (i : Nat) :
    (placesWhere p before text).testBit i =
      (decide (i ≤ text.length) &&
        p ⟨if i = 0 then before else text[i - 1]?, text[i]?⟩) := by
  induction text generalizing before i with
  | nil =>
    cases i with
    | zero => cases h : p ⟨before, none⟩ <;> simp [placesWhere, h]
    | succ i =>
      have hlt : (p ⟨before, none⟩).toNat < 2 ^ (i + 1) := by
        have h2 : 2 ^ 1 ≤ 2 ^ (i + 1) := Nat.pow_le_pow_right (by omega) (by omega)
        have := Bool.toNat_lt (p ⟨before, none⟩)
        omega
      rw [placesWhere, Nat.testBit_lt_two_pow hlt]
      simp
  | cons c rest ih =>
    rw [placesWhere]
    cases i with
    | zero => cases h : p ⟨before, some c⟩ <;> simp [h]
    | succ i =>
      have hdiv : ((p ⟨before, some c⟩).toNat + 2 * placesWhere p (some c) rest) / 2 =
          placesWhere p (some c) rest := by
        have := Bool.toNat_lt (p ⟨before, some c⟩)
        omega
      rw [Nat.testBit_succ, hdiv, ih]
      cases i with
      | zero => simp
      | succ i => simp

/-- An atom matches from one place to another as its move leads there. -/
theorem testBit_ends_step (text : List Char) (a : Atom) (begins : Places) (j : Nat) :
    (Step.ends begins (a.step text)).testBit j = true ↔
      ∃ i, begins.testBit i = true ∧ Expression.Matches text (.atom a) i j := by
  cases a with
  | char set =>
    simp only [Atom.step, Step.ends, Nat.testBit_shiftLeft, Nat.testBit_and, testBit_placesWhere,
      Bool.and_eq_true, decide_eq_true_eq]
    refine ⟨?_, ?_⟩
    · rintro ⟨hj, hbegin, _, hset⟩
      obtain ⟨c, hc, hmem⟩ := (Option.any_eq_true _ _).mp hset
      have hstep : j = j - 1 + 1 := by omega
      rw [hstep]
      exact ⟨j - 1, hbegin, .char hc hmem⟩
    · rintro ⟨i, hbegin, hm⟩
      cases hm with
      | @char _ _ c hc hmem =>
        have hi : i < text.length := (List.getElem?_eq_some_iff.mp hc).1
        refine ⟨by omega, hbegin, by simp; omega, ?_⟩
        exact (Option.any_eq_true _ _).mpr ⟨c, by simpa using hc, hmem⟩
  | assertion a =>
    simp only [Atom.step, Step.ends, Nat.testBit_and, testBit_placesWhere, Bool.and_eq_true,
      decide_eq_true_eq]
    refine ⟨?_, ?_⟩
    · rintro ⟨hbegin, hinside, holds⟩
      exact ⟨j, hbegin, .assertion hinside holds⟩
    · rintro ⟨i, hbegin, hm⟩
      cases hm with
      | assertion hinside holds => exact ⟨hbegin, hinside, holds⟩

/-! ### Rounds -/

/-- Settling is iteration: once a round changes nothing, no later one does. -/
theorem settle_eq_iterate (f : Places → Places) (n : Nat) (s : Places) :
    settle f n s = f^[n] s := by
  induction n generalizing s with
  | zero => rfl
  | succ n ih =>
    rw [settle, Function.iterate_succ_apply]
    by_cases h : f s = s
    · rw [if_pos h, h, Function.iterate_fixed h]
    · rw [if_neg h]
      exact ih (f s)

/-- A relation repeated a number of times. -/
def Times (r : Nat → Nat → Prop) : Nat → Nat → Nat → Prop
  | 0, i, j => i = j
  | n + 1, i, k => ∃ j, r i j ∧ Times r n j k

theorem times_add {r : Nat → Nat → Prop} (m n : Nat) {i k : Nat} :
    Times r (m + n) i k ↔ ∃ j, Times r m i j ∧ Times r n j k := by
  induction m generalizing i with
  | zero => simp [Times]
  | succ m ih =>
    rw [Nat.succ_add]
    simp only [Times, ih]
    refine ⟨?_, ?_⟩
    · rintro ⟨j, hj, l, hl, hk⟩
      exact ⟨l, ⟨j, hj, hl⟩, hk⟩
    · rintro ⟨l, ⟨j, hj, hl⟩, hk⟩
      exact ⟨j, hj, l, hl, hk⟩

/-- Rounds that stay where they are can be left out, and then there are no more rounds than
places passed. -/
theorem Times.shorten {r : Nat → Nat → Prop} (mono : ∀ {i j}, r i j → i ≤ j) {n i k : Nat}
    (h : Times r n i k) : i ≤ k ∧ ∃ m ≤ k - i, Times r m i k := by
  induction n generalizing i with
  | zero =>
    cases h
    exact ⟨le_rfl, 0, by omega, rfl⟩
  | succ n ih =>
    obtain ⟨j, hij, hjk⟩ := h
    have hle := mono hij
    obtain ⟨hle', m, hm, htimes⟩ := ih hjk
    by_cases he : i = j
    · subst he
      exact ⟨hle', m, hm, htimes⟩
    · exact ⟨by omega, m + 1, by omega, j, hij, htimes⟩

/-! ### Matches -/

namespace Expression

/-- The bounds of every repetition are in order. -/
def InOrder {α : Type} : Expression α → Prop
  | .empty => True
  | .atom _ => True
  | .sequence x y => x.InOrder ∧ y.InOrder
  | .either x y => x.InOrder ∧ y.InOrder
  | .group _ x => x.InOrder
  | .repeated x least most _ => x.InOrder ∧ ∀ m ∈ most, least ≤ m

theorem Matches.le {text : List Char} {e : Expression Atom} {i j : Nat} (h : Matches text e i j) :
    i ≤ j ∧ j ≤ text.length := by
  induction h with
  | empty inside => exact ⟨le_rfl, inside⟩
  | @char set i c at_i mem =>
    have := (List.getElem?_eq_some_iff.mp at_i).1
    omega
  | assertion inside _ => exact ⟨le_rfl, inside⟩
  | sequence _ _ ih₁ ih₂ => omega
  | left _ ih => exact ih
  | right _ ih => exact ih
  | group _ ih => exact ih
  | done inside => exact ⟨le_rfl, inside⟩
  | again _ _ _ ih₁ ih₂ => omega

theorem matches_sequence_iff {text : List Char} {x y : Expression Atom} {i k : Nat} :
    Matches text (.sequence x y) i k ↔ ∃ j, Matches text x i j ∧ Matches text y j k := by
  refine ⟨?_, ?_⟩
  · intro h
    cases h with
    | sequence first second => exact ⟨_, first, second⟩
  · rintro ⟨j, first, second⟩
    exact .sequence first second

theorem matches_either_iff {text : List Char} {x y : Expression Atom} {i j : Nat} :
    Matches text (.either x y) i j ↔ Matches text x i j ∨ Matches text y i j := by
  refine ⟨?_, ?_⟩
  · intro h
    cases h with
    | left first => exact Or.inl first
    | right second => exact Or.inr second
  · rintro (first | second)
    · exact .left first
    · exact .right second

theorem repeated_iff {text : List Char} {x : Expression Atom} {least : Nat} {most : Option Nat}
    {eager : Bool} {i k : Nat} :
    Matches text (.repeated x least most eager) i k ↔
      i ≤ text.length ∧ ∃ n, least ≤ n ∧ (∀ m ∈ most, n ≤ m) ∧ Times (Matches text x) n i k := by
  refine ⟨?_, ?_⟩
  · intro h
    generalize he : Expression.repeated x least most eager = e at h
    induction h generalizing least most with
    | done inside =>
      cases he
      exact ⟨inside, 0, le_rfl, fun m _ => Nat.zero_le m, rfl⟩
    | again more first _ _ ih =>
      cases he
      obtain ⟨_, n, hleast, hmost, htimes⟩ := ih rfl
      have hfirst := first.le
      refine ⟨by omega, n + 1, by omega, fun m hm => ?_, _, first, htimes⟩
      have hm' := hmost (m - 1) (by simp [Option.mem_def.mp hm])
      have hne : m ≠ 0 := fun h0 => more (by rw [Option.mem_def.mp hm, h0])
      omega
    | _ => cases he
  · rintro ⟨inside, n, hleast, hmost, htimes⟩
    induction n generalizing least most i with
    | zero =>
      obtain rfl : least = 0 := by omega
      cases htimes
      exact .done inside
    | succ n ih =>
      obtain ⟨j, first, htimes⟩ := htimes
      refine .again (fun h0 => ?_) first (ih first.le.2 (by omega) (fun m hm => ?_) htimes)
      · have := hmost 0 (by simp [h0])
        omega
      · obtain ⟨m', hm', rfl⟩ := Option.map_eq_some_iff.mp (Option.mem_def.mp hm)
        have := hmost m' hm'
        omega

end Expression

/-! ### From begins to ends -/

/-- From places up to a size, a function leads to the places to which a relation leads, and no
further than that size. -/
structure LeadsTo (f : Places → Places) (r : Nat → Nat → Prop) (size : Nat) : Prop where
  inside {i j : Nat} : i ≤ size → r i j → j ≤ size
  testBit_iff {s : Places} (within : ∀ i, s.testBit i = true → i ≤ size) (j : Nat) :
    (f s).testBit j = true ↔ ∃ i, s.testBit i = true ∧ r i j

namespace LeadsTo

variable {f : Places → Places} {r : Nat → Nat → Prop} {size : Nat}

theorem within (hf : LeadsTo f r size) {s : Places} (hs : ∀ i, s.testBit i = true → i ≤ size) :
    ∀ j, (f s).testBit j = true → j ≤ size := by
  intro j hj
  obtain ⟨i, hi, hij⟩ := (hf.testBit_iff hs j).mp hj
  exact hf.inside (hs i hi) hij

theorem iterate (hf : LeadsTo f r size) (n : Nat) : LeadsTo f^[n] (Times r n) size := by
  induction n with
  | zero => exact ⟨fun hi h => h ▸ hi, fun _ j => by simp [Times]⟩
  | succ n ih =>
    refine ⟨?_, ?_⟩
    · rintro i j hi ⟨k, hik, htimes⟩
      exact ih.inside (hf.inside hi hik) htimes
    · intro s hs j
      rw [Function.iterate_succ_apply, ih.testBit_iff (hf.within hs) j]
      refine ⟨?_, ?_⟩
      · rintro ⟨k, hk, htimes⟩
        obtain ⟨i, hi, hik⟩ := (hf.testBit_iff hs k).mp hk
        exact ⟨i, hi, k, hik, htimes⟩
      · rintro ⟨i, hi, k, hik, htimes⟩
        exact ⟨k, (hf.testBit_iff hs k).mpr ⟨i, hi, hik⟩, htimes⟩

/-- Rounds that keep what was reached lead wherever no more than so many steps lead. -/
theorem iterate_keeping (hf : LeadsTo f r size) (n : Nat) :
    LeadsTo (fun s => s ||| f s)^[n] (fun i j => ∃ m ≤ n, Times r m i j) size := by
  induction n with
  | zero =>
    refine ⟨?_, ?_⟩
    · rintro i j hi ⟨m, hm, htimes⟩
      exact (hf.iterate m).inside hi htimes
    · intro s _ j
      simp [Times]
  | succ n ih =>
    refine ⟨?_, ?_⟩
    · rintro i j hi ⟨m, hm, htimes⟩
      exact (hf.iterate m).inside hi htimes
    · intro s hs j
      have hor : ∀ i, (s ||| f s).testBit i = true → i ≤ size := by
        intro i hi
        rw [Nat.testBit_or, Bool.or_eq_true] at hi
        exact hi.elim (hs i) (hf.within hs i)
      rw [Function.iterate_succ_apply, ih.testBit_iff hor j]
      refine ⟨?_, ?_⟩
      · rintro ⟨k, hk, m, hm, htimes⟩
        rw [Nat.testBit_or, Bool.or_eq_true] at hk
        rcases hk with hk | hk
        · exact ⟨k, hk, m, by omega, htimes⟩
        · obtain ⟨i, hi, hik⟩ := (hf.testBit_iff hs k).mp hk
          exact ⟨i, hi, m + 1, by omega, k, hik, htimes⟩
      · rintro ⟨i, hi, m, hm, htimes⟩
        cases m with
        | zero => exact ⟨i, by simp [hi], 0, by omega, htimes⟩
        | succ m =>
          obtain ⟨k, hik, htimes⟩ := htimes
          have hk := (hf.testBit_iff hs k).mpr ⟨i, hi, hik⟩
          exact ⟨k, by simp [hk], m, by omega, htimes⟩

end LeadsTo

/-- The number of optional rounds that the matcher takes. -/
def optionalRounds (size least : Nat) : Option Nat → Nat
  | some most => most - least
  | none => size + 1

/-- The rounds of the matcher, the required ones and then the optional ones, are as many as a
repetition allows; beyond the size of the text no more are needed. -/
theorem times_rounds_iff {text : List Char} {x : Expression Atom} {least : Nat} {most : Option Nat}
    (order : ∀ m ∈ most, least ≤ m) {i k : Nat} :
    (∃ j, Times (x.Matches text) least i j ∧
        ∃ m ≤ optionalRounds text.length least most, Times (x.Matches text) m j k) ↔
      ∃ n, least ≤ n ∧ (∀ m ∈ most, n ≤ m) ∧ Times (x.Matches text) n i k := by
  refine ⟨?_, ?_⟩
  · rintro ⟨j, hreq, m, hm, hopt⟩
    refine ⟨least + m, by omega, fun l hl => ?_, (times_add least m).mpr ⟨j, hreq, hopt⟩⟩
    have := order l hl
    rw [Option.mem_def.mp hl, optionalRounds] at hm
    omega
  · rintro ⟨n, hleast, hmost, htimes⟩
    obtain ⟨m, rfl⟩ := Nat.exists_eq_add_of_le hleast
    obtain ⟨j, hreq, hopt⟩ := (times_add least m).mp htimes
    cases most with
    | some l =>
      have := hmost l rfl
      exact ⟨j, hreq, m, by rw [optionalRounds]; omega, hopt⟩
    | none =>
      obtain ⟨_, m', hm', hopt'⟩ := hopt.shorten fun hm => hm.le.1
      by_cases hz : m' = 0
      · subst hz
        exact ⟨j, hreq, 0, by omega, hopt'⟩
      · -- a round was taken, so that the end lies in the text
        have hk : k ≤ text.length := by
          obtain ⟨l, rfl⟩ := Nat.exists_eq_succ_of_ne_zero hz
          obtain ⟨l', hlast, hend⟩ := (times_add l 1).mp hopt'
          obtain ⟨k', hstep, rfl⟩ := hend
          exact hstep.le.2
        exact ⟨j, hreq, m', by rw [optionalRounds]; omega, hopt'⟩

/-- A repetition goes through its rounds: first those that it must, then as many of the others as
may matter, each of which keeps the places that it starts from. -/
theorem ends_repeated_eq (text : List Char) (x : Expression Atom) (least : Nat) (most : Option Nat)
    (eager : Bool) (s : Nat) :
    ends (text.length + 1) ((Expression.repeated x least most eager).map (Atom.step text)) s =
      (fun s => s ||| ends (text.length + 1) (x.map (Atom.step text)) s)^[
        optionalRounds text.length least most]
      ((ends (text.length + 1) (x.map (Atom.step text)))^[least] s) := by
  rw [← settle_eq_iterate, ← settle_eq_iterate]
  cases most <;> rfl

/-- **The matcher follows the relation of matches.**  It ends at the places where some match ends
that begins in the given set. -/
theorem leadsTo_ends (text : List Char) (e : Expression Atom) (he : e.InOrder) :
    LeadsTo (ends (text.length + 1) (e.map (Atom.step text))) (e.Matches text) text.length := by
  refine ⟨fun _ hm => hm.le.2, ?_⟩
  induction e with
  | empty =>
    intro s hs j
    rw [Expression.map, ends]
    refine ⟨?_, ?_⟩
    · intro hj
      exact ⟨j, hj, .empty (hs j hj)⟩
    · rintro ⟨i, hi, hm⟩
      cases hm with
      | empty => exact hi
  | atom a =>
    intro s _ j
    rw [Expression.map, ends]
    exact testBit_ends_step text a s j
  | sequence x y ihx ihy =>
    intro s hs j
    have hx : LeadsTo _ (x.Matches text) text.length := ⟨fun _ hm => hm.le.2, ihx he.1⟩
    rw [Expression.map, ends, ihy he.2 (hx.within hs) j]
    simp only [Expression.matches_sequence_iff, ihx he.1 hs]
    refine ⟨?_, ?_⟩
    · rintro ⟨k, ⟨i, hi, hik⟩, hkj⟩
      exact ⟨i, hi, k, hik, hkj⟩
    · rintro ⟨i, hi, k, hik, hkj⟩
      exact ⟨k, ⟨i, hi, hik⟩, hkj⟩
  | either x y ihx ihy =>
    intro s hs j
    rw [Expression.map, ends, Nat.testBit_or, Bool.or_eq_true, ihx he.1 hs j, ihy he.2 hs j]
    simp only [Expression.matches_either_iff, and_or_left, exists_or]
  | group captures x ih =>
    intro s hs j
    rw [Expression.map, ends, ih he hs j]
    refine ⟨?_, ?_⟩
    · rintro ⟨i, hi, hm⟩
      exact ⟨i, hi, .group hm⟩
    · rintro ⟨i, hi, hm⟩
      cases hm with
      | group inner => exact ⟨i, hi, inner⟩
  | repeated x least most eager ih =>
    intro s hs j
    have hx : LeadsTo (ends (text.length + 1) (x.map (Atom.step text))) (x.Matches text)
        text.length := ⟨fun _ hm => hm.le.2, ih he.1⟩
    rw [ends_repeated_eq, (hx.iterate_keeping _).testBit_iff ((hx.iterate least).within hs) j]
    simp only [(hx.iterate least).testBit_iff hs, Expression.repeated_iff,
      ← times_rounds_iff he.2]
    refine ⟨?_, ?_⟩
    · rintro ⟨k, ⟨i, hi, hreq⟩, hopt⟩
      exact ⟨i, hi, hs i hi, k, hreq, hopt⟩
    · rintro ⟨i, hi, _, k, hreq, hopt⟩
      exact ⟨k, ⟨i, hi, hreq⟩, hopt⟩

theorem matchesFront_iff {e : Expression Atom} (he : e.InOrder) (text : List Char) :
    matchesFront e text = true ↔ ∃ j, e.Matches text 0 j := by
  have hfront : ∀ i, (1 : Places).testBit i = true → i ≤ text.length := by
    intro i hi
    have : i = 0 := Nat.testBit_one_eq_true_iff_self_eq_zero.mp hi
    omega
  have hends := (leadsTo_ends text e he).testBit_iff hfront
  rw [matchesFront, bne_iff_ne]
  refine ⟨?_, ?_⟩
  · intro hne
    obtain ⟨j, hj⟩ := Nat.exists_testBit_of_ne_zero hne
    obtain ⟨i, hi, hm⟩ := (hends j).mp hj
    obtain rfl : i = 0 := Nat.testBit_one_eq_true_iff_self_eq_zero.mp hi
    exact ⟨j, hm⟩
  · rintro ⟨j, hm⟩ hzero
    have hj := (hends j).mpr ⟨0, by simp, hm⟩
    rw [hzero, Nat.zero_testBit] at hj
    cases hj

end RecordSchema.Pattern
