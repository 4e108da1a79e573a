import RecordSchema.Pattern.ByteRanges

/-!
# Loads

The load of a machine is the number of its states and the bytes that they need beyond a fixed amount
each.  A part of a machine may be made many times over, so that its load is not simply added up: the
states for a wide set of characters depend on the number of states that are there before them.

* `Load`: the loads, and `Load.size` in bytes.
* `Cost`: what it takes to make a part of a machine.
-/

namespace RecordSchema.Pattern

/-- The bytes that every state takes. -/
def stateSize : Nat := 32

/-- The bytes of one of several ways out of a state that takes no character. -/
def wayOutSize : Nat := 4

/-- The bytes of one range of a state that takes a byte of several ranges. -/
def rangeSize : Nat := 8

/-- The limit for a machine: ten mebibytes. -/
def sizeLimit : Nat := 10 * 1024 * 1024

/-- A number of states, and the bytes that they need beyond `stateSize` each. -/
structure Load where
  states : Nat
  extra : Nat
deriving DecidableEq, Repr, Inhabited

namespace Load

instance : Add Load where
  add l m := ⟨l.states + m.states, l.extra + m.extra⟩

/-- No states at all. -/
def none : Load := ⟨0, 0⟩

/-- States that need nothing else. -/
def ofStates (n : Nat) : Load := ⟨n, 0⟩

/-- One state that takes no character, with several ways out. -/
def fork (ways : Nat) : Load := ⟨1, ways * wayOutSize⟩

/-- One state that takes a byte of several ranges. -/
def ranges (n : Nat) : Load := ⟨1, n * rangeSize⟩

/-- A load several times over. -/
def times (n : Nat) (l : Load) : Load := ⟨n * l.states, n * l.extra⟩

/-- The bytes of a load. -/
def size (l : Load) : Nat := l.states * stateSize + l.extra

/-- Whether a load stays below the limit. -/
def fits (l : Load) : Bool := decide (l.size ≤ sizeLimit)

end Load

/-- What it takes to make a part of a machine: a load that is always the same, the states for the
rows of a set, and parts one after the other or many times over. -/
inductive Cost where
  | fixed (load : Load)
  | set (rows : List (List ByteRange))
  | both (first second : Cost)
  | times (count : Nat) (inner : Cost)
deriving Repr, Inhabited

namespace Cost

/-- One cost after another; loads that are always the same are added up. -/
def append : Cost → Cost → Cost
  | .fixed l, .fixed m => .fixed (l + m)
  | c, d => .both c d

instance : Append Cost := ⟨append⟩

/-- Costs one after the other. -/
def ofList (cs : List Cost) : Cost :=
  cs.foldr (· ++ ·) (.fixed Load.none)

/-- A cost several times over. -/
def copies (n : Nat) : Cost → Cost
  | .fixed l => .fixed (l.times n)
  | c => .times n c

/-- Does something several times over, but no more once the limit is passed. -/
def whileFits (f : Load → Load) : Nat → Load → Load
  | 0, l => l
  | n + 1, l => if l.fits then whileFits f n (f l) else l

/-- The load after a cost.  `ofRows` makes the states for the rows of a set. -/
def onto (ofRows : List (List ByteRange) → Load → Load) : Cost → Load → Load
  | .fixed m, l => l + m
  | .set rows, l => ofRows rows l
  | .both c d, l => d.onto ofRows (c.onto ofRows l)
  | .times n c, l => whileFits (fun l => c.onto ofRows l) n l

end Cost

end RecordSchema.Pattern
