/-!
# Binary64 numbers

A finite number of the IEEE 754 format binary64 is kept as a sign and a magnitude counted in
**units** of `2⁻¹⁰⁷⁴`, the least positive number of the format.  Every number of the format is a
whole number of units, so comparisons are comparisons of integers and every operation is exact
arithmetic followed by one rounding.

* `Binary64.nearestUnits num den`: the rounding.  The quotient `num / den`, counted in units, goes
  to the nearest number of the format, and a tie goes to the even significand.
* `Binary64.ofInt`: a whole number, rounded; whole numbers up to `2⁵³` are kept exactly.
* `Bound`: a limit of a rule, which besides the finite numbers may be infinite or not a number.
-/

namespace RecordSchema

/-- A finite binary64 number: `units` counts multiples of `2⁻¹⁰⁷⁴`, and zero has two signs. -/
structure Binary64 where
  negative : Bool
  units : Nat
deriving DecidableEq, Repr, Inhabited

namespace Binary64

/-! ### Rounding -/

/-- The number of units in one. -/
def unitsInOne : Nat := 1 <<< 1074

/-- The whole number nearest to `num / den`, a tie going to the even one. -/
def roundDiv (num den : Nat) : Nat :=
  let q := num / den
  let r := num % den
  if 2 * r < den ∨ (2 * r = den ∧ q % 2 = 0) then q else q + 1

/-- The exponent of the spacing of the format at a magnitude: 53 significant bits are kept. -/
def spacing (units : Nat) : Nat :=
  units.log2 - 52

/-- The magnitude of the format nearest to `num / den` units, a tie going to the even
significand. -/
def nearestUnits (num den : Nat) : Nat :=
  let e := spacing (num / den)
  roundDiv num (den <<< e) <<< e

/-- The largest magnitude of the format. -/
def maxUnits : Nat := 0x1fffffffffffff <<< 2045

/-- A whole number, rounded to the format. -/
def ofInt (n : Int) : Binary64 :=
  ⟨decide (n < 0), nearestUnits (n.natAbs * unitsInOne) 1⟩

/-- A count, rounded to the format. -/
def ofNat (n : Nat) : Binary64 :=
  ofInt n

/-! ### Order -/

/-- The signed number of units; both zeros have the count zero. -/
def toInt (x : Binary64) : Int :=
  if x.negative then -(x.units : Int) else x.units

/-- Equality as numbers, which identifies the two zeros. -/
def eqv (x y : Binary64) : Bool :=
  x.toInt == y.toInt

/-- Strict order as numbers. -/
def lt (x y : Binary64) : Bool :=
  decide (x.toInt < y.toInt)

end Binary64

/-! ### Bounds -/

/-- A limit that a rule sets on a number or a length. -/
inductive Bound where
  | finite (x : Binary64)
  | infinite (negative : Bool)
  | nan
deriving DecidableEq, Repr, Inhabited

namespace Bound

/-- Strict order of limits.  Nothing lies below or above `nan`. -/
def lt : Bound → Bound → Bool
  | .nan, _ => false
  | _, .nan => false
  | .infinite a, .infinite b => a && !b
  | .infinite a, .finite _ => a
  | .finite _, .infinite b => !b
  | .finite x, .finite y => x.lt y

/-- The limit lies below zero. -/
def isNegative (b : Bound) : Bool :=
  b.lt (.finite ⟨false, 0⟩)

end Bound

end RecordSchema
