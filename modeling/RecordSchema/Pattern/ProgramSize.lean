import RecordSchema.Pattern.Plan
import RecordSchema.Pattern.SetStates
import RecordSchema.Pattern.WordTree

/-!
# The size of a pattern

A pattern is refused when the state machine for it is too large: repetitions with bounds copy what
they repeat, so a short pattern may stand for a very large machine.  The machine reads bytes, once
from the front of a text and once from its back, and both must stay below the limit.

* `Plan.cost`: what it takes to make the machine of a plan, part by part.
* `programLoad`: the load of the whole machine for a plan.
* `fits`: whether the machines for an expression stay below the limit.
-/

namespace RecordSchema.Pattern

open Unicode

/-- The direction in which a machine reads a text. -/
inductive Direction where
  | fromFront
  | fromBack
deriving DecidableEq, Repr

/-- The order in which the parts of a row are made. -/
def Direction.order {α : Type} (d : Direction) (parts : List α) : List α :=
  match d with
  | .fromFront => parts
  | .fromBack => parts.reverse

/-! ### Costs -/

/-- The cost of states that are always the same. -/
def Cost.ofStates (n : Nat) : Cost :=
  .fixed (Load.ofStates n)

/-- The cost of a fork with two ways out. -/
def Cost.fork : Cost :=
  .fixed (Load.fork 2)

/-- The cost of a set.  In ASCII one state takes all members; it is followed by a common end. -/
def setCost (s : CharSet) : Cost :=
  if s.within maxAscii then .fixed (Load.ranges s.length + Load.ofStates 1)
  else .set (byteRows s)

/-- The cost of a repetition.  What may take nothing is repeated by two forks, as the second one
leaves the loop. -/
def repetitionCost (inner : Cost) (something : Bool) (least : Nat) : Option Nat → Cost
  | none =>
    if least ≠ 0 then inner.copies least ++ Cost.fork
    else if something then Cost.fork ++ inner
    else inner ++ Cost.fork ++ Cost.fork ++ Cost.ofStates 1
  | some most =>
    if most ≤ least then inner.copies least
    else if most = 1 then Cost.fork ++ inner ++ Cost.ofStates 1
    else
      (if least = 0 then Cost.ofStates 1 else inner.copies least) ++ Cost.ofStates 1 ++
        (Cost.fork ++ inner).copies (most - least)

/-- The cost of a choice: a fork, the options, and a common end.  The fork and the end are made
after the second option. -/
def choiceCost : List Cost → Cost
  | c :: d :: rest =>
    c ++ d ++ .fixed (Load.fork (rest.length + 2) + Load.ofStates 1) ++ Cost.ofList rest
  | costs => Cost.ofList costs

/-- The code points of a word. -/
def Plan.word? : Plan → Option (List Nat)
  | .word codes => some codes
  | _ => none

mutual

/-- What it takes to make the machine of a plan.  Only the machine from the front marks the ends of
groups. -/
def Plan.cost (direction : Direction) : Plan → Cost
  | .word codes => Cost.ofStates (codes.flatMap encode).length
  | .set s => setCost s
  | .assertion _ => Cost.ofStates 1
  | .group x =>
    match direction with
    | .fromFront => Cost.ofStates 1 ++ x.cost direction ++ Cost.ofStates 1
    | .fromBack => x.cost direction
  | .repeated x least most _ =>
    let traits := x.traits
    repetitionCost (x.cost direction) (traits.takesSomething && !traits.hasGap) least most
  | .row [] => Cost.ofStates 1
  | .row (p :: ps) => Cost.ofList (direction.order (p.cost direction :: Plan.costs direction ps))
  | .choice ps =>
    match ps.mapM Plan.word? with
    | some words =>
      .fixed (WordTree.ofWords (words.map fun codes =>
        direction.order (codes.flatMap encode))).load
    | none => choiceCost (Plan.costs direction ps)

/-- The costs of several plans. -/
def Plan.costs (direction : Direction) : List Plan → List Cost
  | [] => []
  | p :: ps => p.cost direction :: Plan.costs direction ps

end

/-! ### Whole machines -/

/-- The cost in front of a machine.  A machine that may begin anywhere skips any bytes first. -/
def frontCost (anchored : Bool) : Cost :=
  if anchored then Cost.ofStates 1
  else Cost.fork ++ .fixed (Load.ranges 1 + Load.ofStates 1)

/-- The load of the whole machine for a plan: the front, the plan, which the machine from the front
takes as a group, and the state that is reached by a match. -/
def programLoad (direction : Direction) (p : Plan) : Load :=
  let traits := p.traits
  match direction with
  | .fromFront =>
    (frontCost traits.fromStart ++ (Plan.group p).cost .fromFront ++ Cost.ofStates 1).onto
      frontLoad Load.none
  | .fromBack =>
    (frontCost traits.toEnd ++ p.cost .fromBack ++ Cost.ofStates 1).onto backLoad Load.none

/-- From this number of words on, a choice between words is looked up and needs no machine. -/
def manyWords : Nat := 3000

/-- Whether a plan only offers very many words. -/
def Plan.isDictionary : Plan → Bool
  | .choice ps => decide (manyWords ≤ ps.length) && ps.all fun p => p.word?.isSome
  | _ => false

/-- Whether the machines for an expression stay below the limit. -/
def fits (e : Expression Atom) : Bool :=
  let plan := Plan.ofExpression e
  plan.isDictionary || ((programLoad .fromFront plan).fits && (programLoad .fromBack plan).fits)

end RecordSchema.Pattern
