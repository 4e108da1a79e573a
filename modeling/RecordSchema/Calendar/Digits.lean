import RecordSchema.Unicode.Blank

/-!
# Numbers inside dates and times

The readers of this folder take the front of a list of characters and give what they read together
with the rest.

* `Calendar.number`: a number of at most a given count of digits, `Calendar.fixed`: of exactly that
  count.
* `Calendar.fraction`: the digits after the point of a second, as nanoseconds.
* `Calendar.padded`: a number with zeros in front, the text of all of these.
-/

namespace RecordSchema.Calendar

/-- What a reader gives: a result and the rest of the text, or nothing. -/
abbrev Scan (α : Type) := Option (α × List Char)

/-- The value of a decimal digit. -/
def digitValue (c : Char) : Nat :=
  c.toNat - '0'.toNat

/-- The number that a row of digits stands for. -/
def ofDigits (digits : List Char) : Nat :=
  digits.foldl (fun n c => 10 * n + digitValue c) 0

/-- The digits at the front of a text, at most `width` of them. -/
def frontDigits (width : Nat) (cs : List Char) : List Char :=
  (cs.take width).takeWhile Char.isDigit

/-- A number of one up to `width` digits. -/
def number (width : Nat) (cs : List Char) : Scan Nat :=
  let digits := frontDigits width cs
  if digits.isEmpty then none else some (ofDigits digits, cs.drop digits.length)

/-- A number of exactly `width` digits. -/
def fixed (width : Nat) (cs : List Char) : Scan Nat :=
  let digits := frontDigits width cs
  if digits.length = width then some (ofDigits digits, cs.drop width) else none

/-- One given character. -/
def expect (c : Char) : List Char → Option (List Char)
  | d :: rest => if d = c then some rest else none
  | [] => none

/-- The text after its blanks. -/
def skipBlanks (cs : List Char) : List Char :=
  cs.dropWhile Unicode.isBlank

/-- The number of places of a second that are kept. -/
def fractionPlaces : Nat := 9

/-- The digits of a fraction as nanoseconds; those past the ninth are dropped. -/
def fraction (cs : List Char) : Scan Nat :=
  let digits := frontDigits fractionPlaces cs
  if digits.isEmpty then none
  else
    some (ofDigits digits * Nat.pow 10 (fractionPlaces - digits.length),
      cs.dropWhile Char.isDigit)

/-- A point and a fraction, or nothing at all. -/
def optionalFraction : List Char → Scan Nat
  | '.' :: rest => fraction rest
  | cs => some (0, cs)

/-- A number with zeros in front, at least `width` characters. -/
def padded (width n : Nat) : List Char :=
  let digits := Nat.toDigits 10 n
  List.replicate (width - digits.length) '0' ++ digits

end RecordSchema.Calendar
