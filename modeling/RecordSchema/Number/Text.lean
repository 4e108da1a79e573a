import RecordSchema.Number.Shortest

/-!
# Numbers as text

A number is written with its shortest digits.  What else the text needs is a `Layout`: which
exponents are written positionally, whether a whole number keeps a point, and where a half goes.
There are two of them.

* `Binary64.valueLayout`: numbers in values.
* `Bound.layout`: numbers in limits, and `Bound.text`, which also writes the limits that are not
  finite.
-/

namespace RecordSchema

/-- How a number is set as text. -/
structure Layout where
  /-- Where a half goes. -/
  tie : Tie
  /-- The leading exponents that are written without an exponent. -/
  positional : Int → Bool
  /-- Whether a whole number keeps a point and a zero. -/
  wholePoint : Bool

namespace Layout

/-- Without an exponent: zeros fill the places between the digits and the point. -/
def plain (layout : Layout) (d : Decimal) : String :=
  if d.exponent < 0 then
    "0." ++ "".pushn '0' (-1 - d.exponent).toNat ++ String.ofList d.digits
  else
    let whole := d.exponent.toNat + 1
    let front := d.digits.take whole
    let back := d.digits.drop whole
    let front := (String.ofList front).pushn '0' (whole - front.length)
    if back.isEmpty then (if layout.wholePoint then front ++ ".0" else front)
    else front ++ "." ++ String.ofList back

/-- With an exponent, whose sign is always written. -/
def scientific (d : Decimal) : String :=
  let sign := if d.exponent < 0 then "-" else "+"
  let digits := match d.digits with
    | c :: [] => String.singleton c
    | c :: rest => String.singleton c ++ "." ++ String.ofList rest
    | [] => "0"
  digits ++ "e" ++ sign ++ toString d.exponent.natAbs

/-- A magnitude as text. -/
def magnitude (layout : Layout) (units : Nat) : String :=
  if units = 0 then (if layout.wholePoint then "0.0" else "0")
  else
    let d := Binary64.shortest layout.tie units
    if layout.positional d.exponent then layout.plain d else scientific d

/-- A number as text; zero keeps its sign. -/
def write (layout : Layout) (x : Binary64) : String :=
  (if x.negative then "-" else "") ++ layout.magnitude x.units

end Layout

/-- Numbers in values: positional from `10⁻⁵` up to `10¹⁶`, and a point even in whole numbers. -/
def Binary64.valueLayout : Layout :=
  { tie := .toEven
    positional := fun e => decide (-5 ≤ e) && decide (e < 16)
    wholePoint := true }

/-- Numbers in limits: always positional, and whole numbers without a point. -/
def Bound.layout : Layout :=
  { tie := .up
    positional := fun _ => true
    wholePoint := false }

/-- A limit as text. -/
def Bound.text : Bound → String
  | .finite x => Bound.layout.write x
  | .infinite false => "inf"
  | .infinite true => "-inf"
  | .nan => "NaN"

end RecordSchema
