import RecordSchema.Number.Binary64

/-!
# Scaling by powers of ten

A decimal `significand · 10 ^ exponent` becomes a binary64 number in a few rounded steps: the
significand is rounded, and then multiplied by or divided by a power of ten, which is itself a
rounded number.  The powers reach to `10³⁰⁸`.  Below that the division is repeated, above that
only zero has a value.

* `Binary64.mul`, `Binary64.div`: one operation on magnitudes, rounded once.
* `Binary64.ofScientific?`: the decimal, unless it is too large for the format.
-/

namespace RecordSchema.Binary64

/-- The product of two magnitudes, rounded. -/
def mul (a b : Nat) : Nat :=
  nearestUnits (a * b) unitsInOne

/-- The quotient of two magnitudes, rounded. -/
def div (a b : Nat) : Nat :=
  nearestUnits (a * unitsInOne) b

/-- The largest exponent of a power of ten in the format. -/
def maxTenExponent : Nat := 308

/-- A power of ten, rounded. -/
def tenPower (e : Nat) : Nat :=
  nearestUnits (Nat.pow 10 e * unitsInOne) 1

/-- A magnitude divided by `10 ^ e`, in steps of at most `10 ^ 308`. -/
def divTenPower (units e : Nat) : Nat :=
  if units = 0 then 0
  else if e ≤ maxTenExponent then div units (tenPower e)
  else divTenPower (div units (tenPower maxTenExponent)) (e - maxTenExponent)
termination_by e
decreasing_by simp only [maxTenExponent] at *; omega

/-- A magnitude multiplied by `10 ^ e`, unless the product is too large. -/
def mulTenPower? (units e : Nat) : Option Nat :=
  if units = 0 then some 0
  else if e ≤ maxTenExponent then
    let product := mul units (tenPower e)
    if product ≤ maxUnits then some product else none
  else none

/-- The number `± significand · 10 ^ exponent`, unless it is too large. -/
def ofScientific? (negative : Bool) (significand : Nat) (exponent : Int) : Option Binary64 :=
  let units := nearestUnits (significand * unitsInOne) 1
  if exponent < 0 then some ⟨negative, divTenPower units exponent.natAbs⟩
  else (mulTenPower? units exponent.natAbs).map (⟨negative, ·⟩)

end RecordSchema.Binary64
