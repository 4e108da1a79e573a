import RecordSchema.Unicode.CharSet

/-!
# Sets of characters as rows of byte ranges

In the encoding UTF-8 a range of characters is a union of rows of byte ranges: a row holds the
characters whose bytes lie in its ranges, one by one.  The rows of a set are what a state machine
over bytes has to tell apart.

* `encode`: the bytes of a code point.
* `byteRows`: the rows of a set, in increasing order.
-/

namespace RecordSchema.Pattern

open Unicode

/-- A range of bytes, both ends included. -/
abbrev ByteRange := Nat × Nat

/-- The bytes of a code point. -/
def encode (n : Nat) : List Nat :=
  if n < 0x80 then [n]
  else if n < 0x800 then [0xc0 + n / 0x40, 0x80 + n % 0x40]
  else if n < 0x10000 then [0xe0 + n / 0x1000, 0x80 + n / 0x40 % 0x40, 0x80 + n % 0x40]
  else
    [0xf0 + n / 0x40000, 0x80 + n / 0x1000 % 0x40, 0x80 + n / 0x40 % 0x40, 0x80 + n % 0x40]

/-- A place where a range of code points has to be cut: the last code point of its front part. -/
def cutPoint? (low high : Nat) : Option Nat :=
  let atLength := [0x7f, 0x7ff, 0xffff].find? fun m => decide (low ≤ m) && decide (m < high)
  match atLength with
  | some m => some m
  | none =>
    if high ≤ 0x7f then none
    else
      [0x40, 0x1000, 0x40000].findSome? fun m =>
        if low / m = high / m then none
        else if low % m ≠ 0 then some (low / m * m + m - 1)
        else if high % m ≠ m - 1 then some (high / m * m - 1)
        else none

/-- The rows of a range of code points, cut at most `fuel` times in depth. -/
def rangeRows : Nat → Nat → Nat → List (List ByteRange)
  | 0, _, _ => []
  | fuel + 1, low, high =>
    match cutPoint? low high with
    | some m => rangeRows fuel low m ++ rangeRows fuel (m + 1) high
    | none => [(encode low).zip (encode high)]

/-- The rows of a set of characters; code points that are no characters are left out. -/
def byteRows (s : CharSet) : List (List ByteRange) :=
  s.characters.flatMap fun (low, high) => rangeRows 32 low high

end RecordSchema.Pattern
