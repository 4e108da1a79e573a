import RecordSchema.Number.Binary64

/-!
# Shortest decimals

The **shortest** decimal of a binary64 number has the fewest digits among the decimals that round
to it, and among those it is the nearest one.  A number of the format has a finite decimal
expansion: `units · 2⁻¹⁰⁷⁴ = (units · 5¹⁰⁷⁴) · 10⁻¹⁰⁷⁴`.  So the search runs over whole numbers.
For one, two, … digits it tests the two neighbours of the number on the decimal grid of that many
digits against the interval of reals that round to it.

* `Decimal`: digits and the power of ten of the leading one.
* `Binary64.Interval`: the reals that round to a magnitude.
* `Binary64.shortest`: the search.
-/

namespace RecordSchema

/-- A positive decimal `d.ddd · 10 ^ exponent`, given by its digits, the leading one first. -/
structure Decimal where
  digits : List Char
  exponent : Int
deriving DecidableEq, Repr

/-- Where a decimal goes that lies half way between two candidates. -/
inductive Tie where
  | toEven
  | up
deriving DecidableEq, Repr

namespace Binary64

/-- The number of decimal places of the expansion. -/
def places : Nat := 1074

/-- The expansion of a magnitude, counted in `10⁻¹⁰⁷⁴`. -/
def expansion (units : Nat) : Nat :=
  units * Nat.pow 5 places

/-- The reals that round to a magnitude, counted in quarters of a unit. -/
structure Interval where
  low : Nat
  high : Nat
  closed : Bool

/-- The interval of a magnitude.  It reaches half way to either neighbour, the lower neighbour of a
power of two is twice as near, and the ends belong to it iff the significand is even. -/
def interval (units : Nat) : Interval :=
  let e := spacing units
  let below := if 0 < e ∧ units = 1 <<< (e + 52) then 1 <<< e else 2 <<< e
  { low := 4 * units - below
    high := 4 * units + (2 <<< e)
    closed := (units >>> e) % 2 == 0 }

/-- Membership of a real counted in `10⁻¹⁰⁷⁴`. -/
def Interval.has (i : Interval) (n : Nat) : Bool :=
  let low := expansion i.low
  let high := expansion i.high
  if i.closed then decide (low ≤ 4 * n) && decide (4 * n ≤ high)
  else decide (low < 4 * n) && decide (4 * n < high)

/-- The neighbours of `n` on the grid of multiples of `grid` that lie in the interval: the nearer
one, as a multiple of `grid`, if there is any. -/
def onGrid? (tie : Tie) (i : Interval) (n grid : Nat) : Option Nat :=
  let c := n / grid
  let r := n % grid
  let lowerIn := i.has (c * grid)
  let upperIn := i.has ((c + 1) * grid)
  if lowerIn && upperIn then
    if 2 * r < grid then some c
    else if grid < 2 * r then some (c + 1)
    else match tie with
      | .toEven => some (if c % 2 = 0 then c else c + 1)
      | .up => some (c + 1)
  else if lowerIn then some c
  else if upperIn then some (c + 1)
  else none

/-- The digits of a whole number without the zeros at its end, and how many those were. -/
def trimZeros (n : Nat) : List Char :=
  ((Nat.toDigits 10 n).reverse.dropWhile (· == '0')).reverse

/-- The first grid with a hit, tried from coarse to fine; `steps` grids are left. -/
def searchGrids (tie : Tie) (i : Interval) (n length : Nat) : Nat → Decimal
  | 0 => ⟨trimZeros n, (length : Int) - 1 - places⟩
  | steps + 1 =>
    match onGrid? tie i n (Nat.pow 10 (length - (17 - steps))) with
    | some c =>
      ⟨trimZeros c,
        ((Nat.toDigits 10 c).length : Int) - 1 + (length - (17 - steps) : Nat) - places⟩
    | none => searchGrids tie i n length steps

/-- The shortest decimal of a positive magnitude. -/
def shortest (tie : Tie) (units : Nat) : Decimal :=
  let n := expansion units
  searchGrids tie (interval units) n (Nat.toDigits 10 n).length 17

end Binary64

end RecordSchema
