import RecordSchema.Pattern.Load

/-!
# Trees of words

Words that are offered side by side share the states for the fronts that they have in common.  The
words keep their order: what is added after a word has ended is kept apart from what was there
before.

* `WordTree.ofWords`: the tree of words, each of them a list of bytes.
* `WordTree.load`: the load of the machine for a tree.
-/

namespace RecordSchema.Pattern

/-- What may follow a common front: steps over one byte each, between which words may end. -/
inductive WordTree where
  | done
  | ended (rest : WordTree)
  | step (byte : Nat) (below rest : WordTree)
deriving Repr, DecidableEq, Inhabited

namespace WordTree

/-- There is no step. -/
def isLeaf : WordTree → Bool
  | .done => true
  | .ended rest => rest.isLeaf
  | .step _ _ _ => false

/-- A word ends here. -/
def hasEnd : WordTree → Bool
  | .done => false
  | .ended _ => true
  | .step _ _ rest => rest.hasEnd

/-- The tree of a single word. -/
def ofWord : List Nat → WordTree
  | [] => .ended .done
  | b :: word => .step b (ofWord word) .done

/-- One more end behind everything. -/
def endLast : WordTree → WordTree
  | .done => .ended .done
  | .ended rest => .ended rest.endLast
  | .step b below rest => .step b below rest.endLast

/-- One more end, unless a word ends here already and there is no step. -/
def addEnd (t : WordTree) : WordTree :=
  if t.isLeaf && t.hasEnd then t else t.endLast

/-- A tree with one more word, which joins the steps behind the last end. -/
def add : List Nat → WordTree → WordTree
  | [], t => t.addEnd
  | b :: word, .done => ofWord (b :: word)
  | b :: word, .ended rest => .ended (add (b :: word) rest)
  | b :: word, .step c below rest =>
    if b = c ∧ !rest.hasEnd then .step c (add word below) rest
    else .step c below (add (b :: word) rest)

/-- The tree of words. -/
def ofWords (words : List (List Nat)) : WordTree :=
  words.foldl (fun t word => t.add word) .done

/-- The load of steps between two ends, the way to them included. -/
def stepsLoad : Nat → Load
  | 0 => Load.none
  | 1 => ⟨1, wayOutSize⟩
  | n + 2 => Load.ranges (n + 2) + ⟨0, wayOutSize⟩

/-- The load of a tree without the fork in front of it; `n` counts the steps since the last end. -/
def loadFrom : Nat → WordTree → Load
  | n, .done => stepsLoad n
  | n, .ended rest => stepsLoad n + ⟨0, wayOutSize⟩ + rest.loadFrom 0
  | n, .step _ below rest =>
    (if below.isLeaf then Load.none else Load.fork 0 + below.loadFrom 0) + rest.loadFrom (n + 1)

/-- The load of the machine for a tree: the fork in front, the tree, and a common end. -/
def load (t : WordTree) : Load :=
  Load.fork 0 + t.loadFrom 0 + Load.ofStates 1

end WordTree

end RecordSchema.Pattern
