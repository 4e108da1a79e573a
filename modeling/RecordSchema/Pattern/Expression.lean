import RecordSchema.Unicode.Property

/-!
# Regular expressions

An expression is built from atoms.  In a pattern an atom takes one character of a set or asserts
something about a place in the text; for one text, an atom becomes a move between places.  Whether a
group captures what it matches, and whether a repetition prefers to go on, has no effect on which
stretches are matched; both are recorded because the machine for a pattern depends on them.

* `Expression`: the expressions over any kind of atoms.
* `Place`, `Assertion.holdsAt`: what an assertion says about a place.
* `Expression.Matches`: which stretches of a text an expression matches.
-/

namespace RecordSchema.Pattern

open Unicode

/-- Regular expressions over atoms. -/
inductive Expression (α : Type) where
  | empty
  | atom (a : α)
  | sequence (first second : Expression α)
  | either (first second : Expression α)
  | group (captures : Bool) (inner : Expression α)
  | repeated (inner : Expression α) (least : Nat) (most : Option Nat) (eager : Bool)
deriving Repr, DecidableEq, Inhabited

/-- The same expression with other atoms. -/
def Expression.map {α β : Type} (f : α → β) : Expression α → Expression β
  | .empty => .empty
  | .atom a => .atom (f a)
  | .sequence x y => .sequence (x.map f) (y.map f)
  | .either x y => .either (x.map f) (y.map f)
  | .group captures x => .group captures (x.map f)
  | .repeated x least most eager => .repeated (x.map f) least most eager

/-! ### Atoms -/

/-- A place in a text: the characters on both sides of it, where there are any. -/
structure Place where
  before : Option Char
  after : Option Char
deriving DecidableEq, Repr

/-- What a pattern may assert about a place.  Words are told apart by the characters of words in
all scripts, or in ASCII alone. -/
inductive Assertion where
  | textStart
  | textEnd
  | lineStart
  | lineEnd
  | lineStartWithReturn
  | lineEndWithReturn
  | wordBoundary (ascii : Bool)
  | noWordBoundary (ascii : Bool)
  | wordStart (ascii : Bool)
  | wordEnd (ascii : Bool)
  | wordStartHalf (ascii : Bool)
  | wordEndHalf (ascii : Bool)
deriving DecidableEq, Repr

/-- The characters of words in ASCII. -/
def asciiWordSet : CharSet :=
  [(0x30, 0x39), (0x41, 0x5a), (0x5f, 0x5f), (0x61, 0x7a)]

/-- Whether there is a character of a word on one side of a place. -/
def isWordChar (ascii : Bool) (c : Option Char) : Bool :=
  c.any (if ascii then asciiWordSet else Property.wordSet).has

/-- Whether an assertion holds at a place. -/
def Assertion.holdsAt (p : Place) : Assertion → Bool
  | .textStart => p.before.isNone
  | .textEnd => p.after.isNone
  | .lineStart => p.before.all (· == '\n')
  | .lineEnd => p.after.all (· == '\n')
  | .lineStartWithReturn =>
    p.before.all (· == '\n') || (p.before == some '\r' && p.after != some '\n')
  | .lineEndWithReturn =>
    p.after.all (· == '\r') || (p.after == some '\n' && p.before != some '\r')
  | .wordBoundary ascii => isWordChar ascii p.before != isWordChar ascii p.after
  | .noWordBoundary ascii => isWordChar ascii p.before == isWordChar ascii p.after
  | .wordStart ascii => !isWordChar ascii p.before && isWordChar ascii p.after
  | .wordEnd ascii => isWordChar ascii p.before && !isWordChar ascii p.after
  | .wordStartHalf ascii => !isWordChar ascii p.before
  | .wordEndHalf ascii => !isWordChar ascii p.after

/-- An atom of a pattern. -/
inductive Atom where
  | char (set : CharSet)
  | assertion (a : Assertion)
deriving DecidableEq, Repr

/-! ### Matches -/

/-- The place of a text before its character number `i`. -/
def placeAt (text : List Char) (i : Nat) : Place :=
  { before := if i = 0 then none else text[i - 1]?
    after := text[i]? }

/-- The stretch of a text from one place to another is matched. -/
inductive Expression.Matches (text : List Char) : Expression Atom → Nat → Nat → Prop
  | empty {i : Nat} (inside : i ≤ text.length) : Matches text .empty i i
  | char {set : CharSet} {i : Nat} {c : Char} (at_i : text[i]? = some c) (mem : set.has c = true) :
      Matches text (.atom (.char set)) i (i + 1)
  | assertion {a : Assertion} {i : Nat} (inside : i ≤ text.length)
      (holds : a.holdsAt (placeAt text i) = true) : Matches text (.atom (.assertion a)) i i
  | sequence {x y : Expression Atom} {i j k : Nat} (first : Matches text x i j)
      (second : Matches text y j k) : Matches text (.sequence x y) i k
  | left {x y : Expression Atom} {i j : Nat} (first : Matches text x i j) :
      Matches text (.either x y) i j
  | right {x y : Expression Atom} {i j : Nat} (second : Matches text y i j) :
      Matches text (.either x y) i j
  | group {captures : Bool} {x : Expression Atom} {i j : Nat} (inner : Matches text x i j) :
      Matches text (.group captures x) i j
  | done {x : Expression Atom} {most : Option Nat} {eager : Bool} {i : Nat}
      (inside : i ≤ text.length) : Matches text (.repeated x 0 most eager) i i
  | again {x : Expression Atom} {least : Nat} {most : Option Nat} {eager : Bool} {i j k : Nat}
      (more : most ≠ some 0) (first : Matches text x i j)
      (rest : Matches text (.repeated x (least - 1) (most.map (· - 1)) eager) j k) :
      Matches text (.repeated x least most eager) i k

end RecordSchema.Pattern
