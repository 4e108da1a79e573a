/-!
# Sets of characters

A set of characters is a list of ranges of code points in increasing order, no two of which touch.
Code points that are no characters may lie in a range; they never occur in a text.

* `CharSet.ofRanges`: any ranges, put in order and joined where they touch.
* `CharSet.has`: membership.
* `CharSet.union`, `CharSet.complement`, …: the algebra of sets.
* `CharSet.ofText`: the form in which the tables of this folder are written.  Each item is a code
  point `a`, a range `a-b`, or every other code point of a range, `a-b/2`, all in hexadecimal.
-/

namespace RecordSchema.Unicode

/-- A set of characters: ranges in increasing order, both ends included. -/
abbrev CharSet := List (Nat × Nat)

/-- The largest code point. -/
def maxCodePoint : Nat := 0x10ffff

/-- The largest code point of one byte in ASCII. -/
def maxAscii : Nat := 0x7f

namespace CharSet

/-- Joins a range with those that follow as far as they touch; the ranges are ordered by their
first code point. -/
def joinFrom (low high : Nat) : List (Nat × Nat) → CharSet
  | [] => [(low, high)]
  | (low', high') :: rest =>
    if low' ≤ high + 1 then joinFrom low (max high high') rest
    else (low, high) :: joinFrom low' high' rest

/-- Joins ranges that touch. -/
def join : List (Nat × Nat) → CharSet
  | [] => []
  | (low, high) :: rest => joinFrom low high rest

/-- The set of the code points in any of the ranges. -/
def ofRanges (ranges : List (Nat × Nat)) : CharSet :=
  join ((ranges.filter fun r => r.1 ≤ r.2).mergeSort fun r s => r.1 ≤ s.1)

/-- One code point. -/
def single (n : Nat) : CharSet :=
  [(n, n)]

/-- Every code point. -/
def full : CharSet :=
  [(0, maxCodePoint)]

/-- Membership of a code point. -/
def hasCode (s : CharSet) (n : Nat) : Bool :=
  s.any fun (low, high) => decide (low ≤ n) && decide (n ≤ high)

/-- Membership of a character. -/
def has (s : CharSet) (c : Char) : Bool :=
  s.hasCode c.toNat

/-- The ranges without the code points from `0xd800` to `0xdfff`, which are no characters. -/
def characters (s : CharSet) : CharSet :=
  s.flatMap fun (low, high) =>
    [(low, min high 0xd7ff), (max low 0xe000, high)].filter fun r => r.1 ≤ r.2

/-- No member lies above the limit. -/
def within (limit : Nat) (s : CharSet) : Bool :=
  s.all fun r => decide (r.2 ≤ limit)

/-! ### Algebra -/

/-- The members of either set. -/
def union (s t : CharSet) : CharSet :=
  ofRanges (s ++ t)

/-- The gaps of a set from a code point on, up to a limit. -/
def gaps (limit : Nat) : Nat → CharSet → CharSet
  | start, [] => if start ≤ limit then [(start, limit)] else []
  | start, (low, high) :: rest =>
    if start < low then (start, low - 1) :: gaps limit (high + 1) rest
    else gaps limit (high + 1) rest

/-- The code points up to a limit that are not in a set. -/
def complementIn (limit : Nat) (s : CharSet) : CharSet :=
  gaps limit 0 s

/-- The code points that are not in a set. -/
def complement (s : CharSet) : CharSet :=
  s.complementIn maxCodePoint

/-- The members of both sets. -/
def inter (s t : CharSet) : CharSet :=
  (s.complement.union t.complement).complement

/-- The members of the first set that are not in the second. -/
def diff (s t : CharSet) : CharSet :=
  s.inter t.complement

/-- The members of exactly one of two sets. -/
def symmDiff (s t : CharSet) : CharSet :=
  (s.diff t).union (t.diff s)

/-! ### Written form -/

/-- The value of a hexadecimal digit in lower case. -/
def hexValue (c : Char) : Nat :=
  if c.isDigit then c.toNat - '0'.toNat else c.toNat - 'a'.toNat + 10

/-- The number that hexadecimal digits stand for. -/
def ofHex (digits : List Char) : Nat :=
  digits.foldl (fun n c => 16 * n + hexValue c) 0

/-- What stands between the items of a table. -/
def isGap (c : Char) : Bool :=
  c == ' ' || c == '\n'

/-- The items between gaps. -/
def items : List Char → List (List Char)
  | [] => []
  | c :: rest =>
    match items rest with
    | [] => if isGap c then [] else [[c]]
    | item :: more =>
      if isGap c then [] :: item :: more else (c :: item) :: more

/-- What stands before a mark and what stands after it. -/
def cutAt (mark : Char) (cs : List Char) : List Char × List Char :=
  (cs.takeWhile (· != mark), (cs.dropWhile (· != mark)).drop 1)

/-- The ranges of one item. -/
def itemRanges (item : List Char) : List (Nat × Nat) :=
  let (low, rest) := cutAt '-' item
  let (high, step) := cutAt '/' rest
  let first := ofHex low
  if high.isEmpty then [(first, first)]
  else if step.isEmpty then [(first, ofHex high)]
  else (List.range ((ofHex high - first) / 2 + 1)).map fun i => (first + 2 * i, first + 2 * i)

/-- The set that a table describes. -/
def ofText (text : String) : CharSet :=
  ofRanges (((items text.toList).filter (· ≠ [])).flatMap itemRanges)

end CharSet

end RecordSchema.Unicode
