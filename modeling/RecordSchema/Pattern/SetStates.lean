import RecordSchema.Pattern.Load
import Std.Data.HashMap

/-!
# States for sets of characters

A set with characters beyond ASCII needs several states, as its characters have several bytes.  A
state that is like an earlier one is not made again if it is still remembered.  The memory has a
fixed number of slots, a state is remembered in one slot only, and it is forgotten when another one
takes that slot; which slot that is depends on the numbers of the states that it leads to.

* `Draft.state`: the number of a state, which is made unless it is remembered.
* `frontLoad`: the load after the states that read the rows of a set from the front.
* `backLoad`: the same for the states that read them from the back.
-/

namespace RecordSchema.Pattern

/-! ### Memory -/

/-- The load so far, and the remembered states: what they are and their numbers, by their slots. -/
structure Draft where
  load : Load
  slots : Std.HashMap Nat (List Nat × Nat)

/-- Mixes numbers into a hash, one after the other. -/
def mix (hash : UInt64) : List Nat → UInt64
  | [] => hash
  | n :: ns => mix ((hash ^^^ UInt64.ofNat n) * 1099511628211) ns

/-- The slot for what the numbers describe. -/
def slotOf (capacity : Nat) (numbers : List Nat) : Nat :=
  (mix 14695981039346656037 numbers).toNat % capacity

/-- A new draft after a load. -/
def Draft.ofLoad (l : Load) : Draft :=
  ⟨l, {}⟩

/-- One more state, which is remembered in a slot. -/
def Draft.add (d : Draft) (slot : Nat) (numbers : List Nat) (load : Load) : Nat × Draft :=
  (d.load.states, ⟨d.load + load, d.slots.insert slot (numbers, d.load.states)⟩)

/-- The number of the state that the numbers describe; it is made unless it is remembered. -/
def Draft.state (d : Draft) (capacity : Nat) (numbers : List Nat) (load : Load) : Nat × Draft :=
  let slot := slotOf capacity numbers
  match d.slots[slot]? with
  | some (known, n) => if known = numbers then (n, d) else d.add slot numbers load
  | none => d.add slot numbers load

/-! ### From the front -/

/-- Rows by their first ranges: a range, what follows it, and the other first ranges. -/
inductive RowTree where
  | done
  | range (first : ByteRange) (below rest : RowTree)
deriving Repr, DecidableEq, Inhabited

namespace RowTree

/-- A tree with one more row in front of the others. -/
def add : List ByteRange → RowTree → RowTree
  | [], t => t
  | r :: row, .done => .range r (add row .done) .done
  | r :: row, .range first below rest =>
    if r = first then .range first (add row below) rest
    else .range r (add row .done) (.range first below rest)

/-- The tree of rows. -/
def ofRows (rows : List (List ByteRange)) : RowTree :=
  rows.foldr add .done

/-- The capacity of the memory for states from the front. -/
def capacity : Nat := 10000

/-- The state with the given ways out, each a range and the number of the state that it leads to. -/
def stateOf (ways : List (ByteRange × Nat)) (d : Draft) : Nat × Draft :=
  d.state capacity (ways.flatMap fun ((low, high), next) => [low, high, next])
    (Load.ranges ways.length)

/-- The ways out of the state for a tree; `last` is the number of the state behind all rows. -/
def ways (last : Nat) : RowTree → Draft → List (ByteRange × Nat) × Draft
  | .done, d => ([], d)
  | .range first below rest, d =>
    let (inner, d) := below.ways last d
    let (next, d) := if inner.isEmpty then (last, d) else stateOf inner d
    let (others, d) := rest.ways last d
    ((first, next) :: others, d)

end RowTree

/-- The load after the states that read the rows of a set from the front. -/
def frontLoad (rows : List (List ByteRange)) (l : Load) : Load :=
  let (ways, d) := (RowTree.ofRows rows).ways l.states (Draft.ofLoad (l + Load.ofStates 1))
  (RowTree.stateOf ways d).2.load

/-! ### From the back -/

/-- The capacity of the memory for states from the back. -/
def backCapacity : Nat := 1000

/-- The states that read a row from the back; `last` is the number of the state behind it. -/
def addRow (last : Nat) (row : List ByteRange) (d : Draft) : Draft :=
  (row.foldl (fun (next, d) (low, high) =>
    d.state backCapacity [next, low, high] (Load.ofStates 1)) (last, d)).2

/-- The load after the states that read the rows of a set from the back: a fork with a way to each
row, and the states of the rows. -/
def backLoad (rows : List (List ByteRange)) (l : Load) : Load :=
  let d := Draft.ofLoad (l + Load.fork rows.length + Load.ofStates 1)
  (rows.foldl (fun d row => addRow (l.states + 1) row d) d).load

end RecordSchema.Pattern
