import Mathlib
import RecordSchema.Number.Binary64

/-!
# Rounding to binary64

Whole numbers up to `2 ^ 53` are kept exactly, and all others keep at least their order.  The
spacing of the format grows with the magnitude, so that two numbers may be rounded on different
grids.  Then a power of two lies between them.  It lies on both grids, and rounding on a grid goes
past none of its points.

* `Binary64.toInt_ofInt`: whole numbers up to `2 ^ 53` are kept exactly.
* `Binary64.roundDiv_mono`: rounding on one grid keeps the order.
* `Binary64.pow_log2_le_nearestUnits`, `Binary64.nearestUnits_le_pow`: rounding stays between two
  powers of two.
* `Binary64.toInt_ofInt_mono`: whole numbers keep their order when they are rounded.
* `Binary64.lt_of_ofInt_lt`, `Binary64.ofInt_lt_iff`: what the order of the rounded numbers says
  about the numbers themselves.
-/

namespace RecordSchema

namespace Binary64

/-! ### Equality -/

variable {x y z : Binary64}

theorem eqv_iff : x.eqv y = true ↔ x.toInt = y.toInt := by
  rw [eqv, beq_iff_eq]

theorem eqv_refl (x : Binary64) : x.eqv x = true := eqv_iff.mpr rfl

theorem eqv_comm (x y : Binary64) : x.eqv y = y.eqv x := by
  rw [Bool.eq_iff_iff, eqv_iff, eqv_iff]
  exact eq_comm

theorem eqv_trans (hxy : x.eqv y = true) (hyz : y.eqv z = true) : x.eqv z = true :=
  eqv_iff.mpr ((eqv_iff.mp hxy).trans (eqv_iff.mp hyz))

/-! ### One grid -/

theorem le_roundDiv (num den : Nat) : num / den ≤ roundDiv num den := by
  rw [roundDiv]
  split <;> omega

theorem roundDiv_le (num den : Nat) : roundDiv num den ≤ num / den + 1 := by
  rw [roundDiv]
  split <;> omega

theorem roundDiv_mono {m n : Nat} (den : Nat) (h : m ≤ n) : roundDiv m den ≤ roundDiv n den := by
  have hquot : m / den ≤ n / den := Nat.div_le_div_right h
  rcases hquot.lt_or_eq with hlt | heq
  · -- Even if one is rounded up and the other one down, they do not cross.
    exact (roundDiv_le m den).trans (le_trans hlt (le_roundDiv n den))
  · -- With one quotient the greater remainder is rounded up if the smaller one is.
    have hrem : m % den ≤ n % den := by
      have hm := Nat.div_add_mod m den
      have hn := Nat.div_add_mod n den
      rw [heq] at hm
      omega
    simp only [roundDiv, heq]
    split
    · split <;> omega
    · next hup =>
      rw [if_neg]
      omega

theorem nearestUnits_eq (n : Nat) :
    nearestUnits n 1 = roundDiv n (2 ^ spacing n) * 2 ^ spacing n := by
  simp only [nearestUnits, Nat.div_one, Nat.shiftLeft_eq, Nat.one_mul]

/-- What lies on a grid is not moved by rounding on it. -/
theorem roundDiv_mul_of_dvd {n d : Nat} (hd : 0 < d) (h : d ∣ n) : roundDiv n d * d = n := by
  have hmod : n % d = 0 := Nat.mod_eq_zero_of_dvd h
  have hquot : roundDiv n d = n / d := by
    simp only [roundDiv, hmod]
    rw [if_pos (Or.inl (by omega))]
  rw [hquot, Nat.div_mul_cancel h]

theorem nearestUnits_of_dvd {n : Nat} (h : 2 ^ spacing n ∣ n) : nearestUnits n 1 = n := by
  rw [nearestUnits_eq, roundDiv_mul_of_dvd (Nat.two_pow_pos _) h]

/-- A magnitude of at most 53 significant bits is kept. -/
theorem nearestUnits_shifted {k : Nat} (h : k ≤ 2 ^ 53) (e : Nat) :
    nearestUnits (k * 1 <<< e) 1 = k * 1 <<< e := by
  rw [Nat.one_shiftLeft]
  apply nearestUnits_of_dvd
  by_cases hspacing : spacing (k * 2 ^ e) ≤ e
  · exact (Nat.pow_dvd_pow 2 hspacing).mul_left k
  · -- The spacing is wider only at the upper end, which is a power of two.
    have hlog : 53 + e ≤ (k * 2 ^ e).log2 := by
      rw [spacing] at hspacing
      omega
    have hne : k * 2 ^ e ≠ 0 := by
      intro hzero
      rw [hzero] at hlog
      simp at hlog
    have hle : 2 ^ 53 * 2 ^ e ≤ k * 2 ^ e := by
      rw [← Nat.pow_add]
      exact (Nat.le_log2 hne).mp hlog
    have hk : k = 2 ^ 53 := Nat.le_antisymm h (Nat.le_of_mul_le_mul_right hle (Nat.two_pow_pos _))
    rw [hk, ← Nat.pow_add, spacing, Nat.log2_two_pow]
    exact Nat.pow_dvd_pow 2 (by omega)

/-! ### Powers of two -/

theorem spacing_le_log2 (n : Nat) : spacing n ≤ n.log2 :=
  Nat.sub_le _ _

theorem pow_log2_le_nearestUnits {n : Nat} (h : n ≠ 0) : 2 ^ n.log2 ≤ nearestUnits n 1 := by
  have hdvd : 2 ^ spacing n ∣ 2 ^ n.log2 := Nat.pow_dvd_pow 2 (spacing_le_log2 n)
  rw [nearestUnits_eq]
  calc 2 ^ n.log2 = roundDiv (2 ^ n.log2) (2 ^ spacing n) * 2 ^ spacing n :=
        (roundDiv_mul_of_dvd (Nat.two_pow_pos _) hdvd).symm
    _ ≤ roundDiv n (2 ^ spacing n) * 2 ^ spacing n :=
        Nat.mul_le_mul_right _ (roundDiv_mono _ (Nat.log2_self_le h))

theorem nearestUnits_le_pow (n : Nat) : nearestUnits n 1 ≤ 2 ^ (n.log2 + 1) := by
  have hdvd : 2 ^ spacing n ∣ 2 ^ (n.log2 + 1) :=
    Nat.pow_dvd_pow 2 (Nat.le_succ_of_le (spacing_le_log2 n))
  rw [nearestUnits_eq]
  calc roundDiv n (2 ^ spacing n) * 2 ^ spacing n
      ≤ roundDiv (2 ^ (n.log2 + 1)) (2 ^ spacing n) * 2 ^ spacing n :=
        Nat.mul_le_mul_right _ (roundDiv_mono _ Nat.lt_log2_self.le)
    _ = 2 ^ (n.log2 + 1) := roundDiv_mul_of_dvd (Nat.two_pow_pos _) hdvd

/-- **Rounding keeps the order of magnitudes.** -/
theorem nearestUnits_mono {m n : Nat} (h : m ≤ n) : nearestUnits m 1 ≤ nearestUnits n 1 := by
  rcases Nat.eq_zero_or_pos m with rfl | hm
  · exact Nat.zero_le _
  · have hn : n ≠ 0 := by omega
    have hlog : m.log2 ≤ n.log2 :=
      (Nat.le_log2 hn).mpr (le_trans (Nat.log2_self_le hm.ne') h)
    rcases hlog.lt_or_eq with hlt | heq
    · calc nearestUnits m 1 ≤ 2 ^ (m.log2 + 1) := nearestUnits_le_pow m
        _ ≤ 2 ^ n.log2 := Nat.pow_le_pow_right (by decide) hlt
        _ ≤ nearestUnits n 1 := pow_log2_le_nearestUnits hn
    · have hspacing : spacing m = spacing n := by rw [spacing, spacing, heq]
      rw [nearestUnits_eq, nearestUnits_eq, hspacing]
      exact Nat.mul_le_mul_right _ (roundDiv_mono _ h)

/-! ### Whole numbers -/

theorem unitsInOne_pos : 0 < unitsInOne := by
  rw [unitsInOne, Nat.shiftLeft_eq]
  positivity

theorem toInt_ofInt_of_nonneg {n : Int} (h : 0 ≤ n) :
    (ofInt n).toInt = nearestUnits (n.natAbs * unitsInOne) 1 := by
  have hn : ¬ n < 0 := not_lt.mpr h
  simp only [toInt, ofInt, hn, decide_false, Bool.false_eq_true, if_false]

theorem toInt_ofInt_of_nonpos {n : Int} (h : n ≤ 0) :
    (ofInt n).toInt = -(nearestUnits (n.natAbs * unitsInOne) 1 : Int) := by
  rcases h.lt_or_eq with hn | rfl
  · simp only [toInt, ofInt, hn, decide_true, if_true]
  · rw [toInt_ofInt_of_nonneg le_rfl]
    rfl

theorem nearestUnits_mul_unitsInOne {k : Nat} (h : k ≤ 2 ^ 53) :
    nearestUnits (k * unitsInOne) 1 = k * unitsInOne := by
  rw [unitsInOne]
  exact nearestUnits_shifted h 1074

/-- **Whole numbers up to `2 ^ 53` are kept exactly.** -/
theorem toInt_ofInt {n : Int} (h : n.natAbs ≤ 2 ^ 53) : (ofInt n).toInt = n * unitsInOne := by
  rcases le_total 0 n with hn | hn
  · rw [toInt_ofInt_of_nonneg hn, nearestUnits_mul_unitsInOne h, Nat.cast_mul,
      Int.natAbs_of_nonneg hn]
  · rw [toInt_ofInt_of_nonpos hn, nearestUnits_mul_unitsInOne h, Nat.cast_mul,
      Int.ofNat_natAbs_of_nonpos hn, neg_mul, neg_neg]

theorem eq_of_ofInt_eqv {m n : Int} (hm : m.natAbs ≤ 2 ^ 53) (hn : n.natAbs ≤ 2 ^ 53)
    (h : (ofInt m).eqv (ofInt n) = true) : m = n := by
  have hunits : (unitsInOne : Int) ≠ 0 := Int.natCast_ne_zero.mpr unitsInOne_pos.ne'
  have htoInt := eqv_iff.mp h
  rw [toInt_ofInt hm, toInt_ofInt hn] at htoInt
  exact Int.eq_of_mul_eq_mul_right hunits htoInt

/-- **Whole numbers keep their order when they are rounded.** -/
theorem toInt_ofInt_mono {m n : Int} (h : m ≤ n) : (ofInt m).toInt ≤ (ofInt n).toInt := by
  have hmagnitudes {a b : Nat} (hab : a ≤ b) :
      (nearestUnits (a * unitsInOne) 1 : Int) ≤ nearestUnits (b * unitsInOne) 1 := by
    exact_mod_cast nearestUnits_mono (Nat.mul_le_mul_right _ hab)
  rcases le_total 0 m with hm | hm
  · rw [toInt_ofInt_of_nonneg hm, toInt_ofInt_of_nonneg (hm.trans h)]
    exact hmagnitudes (by omega)
  · rcases le_total 0 n with hn | hn
    · rw [toInt_ofInt_of_nonpos hm, toInt_ofInt_of_nonneg hn]
      omega
    · rw [toInt_ofInt_of_nonpos hm, toInt_ofInt_of_nonpos hn]
      have hle := hmagnitudes (a := n.natAbs) (b := m.natAbs) (by omega)
      omega

theorem lt_of_ofInt_lt {m n : Int} (h : (ofInt m).lt (ofInt n) = true) : m < n := by
  by_contra hle
  have hmono := toInt_ofInt_mono (not_lt.mp hle)
  have hlt : (ofInt m).toInt < (ofInt n).toInt := of_decide_eq_true h
  omega

/-- **Up to `2 ^ 53` the order is that of the rounded numbers.** -/
theorem ofInt_lt_iff {m n : Int} (hm : m.natAbs ≤ 2 ^ 53) (hn : n.natAbs ≤ 2 ^ 53) :
    (ofInt m).lt (ofInt n) = true ↔ m < n := by
  refine ⟨lt_of_ofInt_lt, fun h => decide_eq_true ?_⟩
  have hunits : (0 : Int) < unitsInOne := Int.natCast_pos.mpr unitsInOne_pos
  rw [toInt_ofInt hm, toInt_ofInt hn]
  exact Int.mul_lt_mul_of_pos_right h hunits

end Binary64

end RecordSchema
