import RecordSchema.Pattern.Expression

/-!
# Plans

A plan is an expression in the form from which a machine is made.  Characters that follow each other
are one word, rows and choices are flat, a choice between characters is a set, and a front that all
options of a choice share stands before the choice.

* `Plan`: the plans.
* `Plan.traits`: what a plan tells about its matches without a text.
* `Plan.choose`: the plan of a choice between plans.
* `Plan.ofExpression`: the plan of an expression.
-/

namespace RecordSchema.Pattern

open Unicode

/-- A plan.  The row without parts takes nothing, and the set without members never matches. -/
inductive Plan where
  | word (codes : List Nat)
  | set (s : CharSet)
  | assertion (a : Assertion)
  | group (inner : Plan)
  | repeated (inner : Plan) (least : Nat) (most : Option Nat) (eager : Bool)
  | row (parts : List Plan)
  | choice (options : List Plan)
deriving BEq, Repr, Inhabited

/-! ### Traits -/

/-- What a plan tells about its matches. -/
structure Traits where
  /-- The number of plans inside, the plan itself included. -/
  count : Nat
  /-- No match takes a character. -/
  takesNothing : Bool
  /-- Every match takes a character. -/
  takesSomething : Bool
  /-- A set without members stands somewhere inside. -/
  hasGap : Bool
  /-- Every match begins at the front of the text. -/
  fromStart : Bool
  /-- Every match ends at the end of the text. -/
  toEnd : Bool
  /-- A group captures something. -/
  hasGroup : Bool

namespace Traits

/-- The traits of what takes a character. -/
def ofChar (s : CharSet) : Traits where
  count := 1
  takesNothing := false
  takesSomething := true
  hasGap := s.isEmpty
  fromStart := false
  toEnd := false
  hasGroup := false

/-- The traits of an assertion. -/
def ofAssertion (a : Assertion) : Traits where
  count := 1
  takesNothing := true
  takesSomething := false
  hasGap := false
  fromStart := a == .textStart
  toEnd := a == .textEnd
  hasGroup := false

/-- The traits of a repetition. -/
def repeated (t : Traits) (least : Nat) : Traits where
  count := t.count + 1
  takesNothing := t.takesNothing
  takesSomething := t.takesSomething && least != 0
  hasGap := t.hasGap
  fromStart := t.fromStart && least != 0
  toEnd := t.toEnd && least != 0
  hasGroup := t.hasGroup

/-- The number of plans inside several plans. -/
def countAll (ts : List Traits) : Nat :=
  ts.foldl (fun n t => n + t.count) 1

/-- Whether a row asserts something before it takes a character. -/
def asserts (trait : Traits → Bool) : List Traits → Bool
  | [] => false
  | t :: ts => trait t || (t.takesNothing && asserts trait ts)

/-- The traits of a row. -/
def ofRow (ts : List Traits) : Traits where
  count := countAll ts
  takesNothing := ts.all takesNothing
  takesSomething := ts.any takesSomething
  hasGap := ts.any hasGap
  fromStart := asserts fromStart ts
  toEnd := asserts toEnd ts.reverse
  hasGroup := ts.any hasGroup

/-- The traits of a choice. -/
def ofChoice (ts : List Traits) : Traits where
  count := countAll ts
  takesNothing := ts.all takesNothing
  takesSomething := ts.all takesSomething
  hasGap := ts.any hasGap
  fromStart := ts.all fromStart
  toEnd := ts.all toEnd
  hasGroup := ts.any hasGroup

end Traits

mutual

/-- The traits of a plan. -/
def Plan.traits : Plan → Traits
  | .word codes => Traits.ofChar (codes.map fun n => (n, n))
  | .set s => Traits.ofChar s
  | .assertion a => Traits.ofAssertion a
  | .group x => { x.traits with count := x.traits.count + 1, hasGroup := true }
  | .repeated x least _ _ => x.traits.repeated least
  | .row parts => Traits.ofRow (Plan.traitsOfAll parts)
  | .choice options => Traits.ofChoice (Plan.traitsOfAll options)

/-- The traits of several plans. -/
def Plan.traitsOfAll : List Plan → List Traits
  | [] => []
  | p :: ps => p.traits :: Plan.traitsOfAll ps

end

namespace Plan

/-! ### Making plans -/

/-- The plan of a set of characters; a set with one member is a word. -/
def ofSet (s : CharSet) : Plan :=
  match s.characters with
  | [(low, high)] => if low = high then .word [low] else .set [(low, high)]
  | s => .set s

/-- The parts of a plan that stand in a row. -/
def parts : Plan → List Plan
  | .row ps => ps
  | p => [p]

/-- The options of a plan. -/
def options : Plan → List Plan
  | .choice ps => ps
  | p => [p]

/-- Parts with one more in front; words that come to stand next to each other are joined. -/
def attach : Plan → List Plan → List Plan
  | .word v, .word w :: rest => .word (v ++ w) :: rest
  | p, ps => p :: ps

/-- The plan of flat parts. -/
def ofParts : List Plan → Plan
  | [p] => p
  | ps => .row ps

/-- One plan before another. -/
def before (p q : Plan) : Plan :=
  ofParts (p.parts.foldr attach q.parts)

/-- A repetition.  What takes nothing is repeated at most once. -/
def times (p : Plan) (least : Nat) (most : Option Nat) (eager : Bool) : Plan :=
  let (least, most) :=
    if p.traits.takesNothing then (min least 1, some (min (most.getD 1) 1)) else (least, most)
  if most = some 0 then .row []
  else if least = 1 ∧ most = some 1 then p
  else .repeated p least most eager

/-! ### Choices -/

/-- The only character of a word. -/
def char? : Plan → Option (Nat × Nat)
  | .word [n] => some (n, n)
  | _ => none

/-- The members of a set. -/
def set? : Plan → Option CharSet
  | .set s => some s
  | _ => none

/-- The parts of a row with parts. -/
def row? : Plan → Option (List Plan)
  | .row (p :: ps) => some (p :: ps)
  | _ => none

/-- The front that two rows share.  Two groups are never the same, as each captures for itself. -/
def sharedFront : List Plan → List Plan → List Plan
  | p :: ps, q :: qs =>
    if p == q && !p.traits.hasGroup then p :: sharedFront ps qs else []
  | _, _ => []

/-- The front that several rows share. -/
def frontOfAll : List (List Plan) → List Plan
  | [] => []
  | first :: others => others.foldl sharedFront first

/-- The choice between flat options; `fuel` bounds how often a front is taken out. -/
def chooseFlat : Nat → List Plan → Plan
  | 0, ps => .choice ps
  | fuel + 1, ps =>
    match ps.mapM char?, ps.mapM set?, ps.mapM row? with
    | some chars, _, _ => ofSet (CharSet.ofRanges chars)
    | none, some sets, _ => ofSet (CharSet.ofRanges sets.flatten)
    | none, none, none => .choice ps
    | none, none, some rows =>
      match frontOfAll rows with
      | [] => .choice ps
      | front =>
        let backs := rows.map fun ps => ofParts (ps.drop front.length)
        (ofParts front).before (chooseFlat fuel (backs.flatMap options))

/-- The choice between plans. -/
def choose : List Plan → Plan
  | [p] => p
  | ps => chooseFlat (Traits.countAll (traitsOfAll ps)) (ps.flatMap options)

/-! ### Expressions -/

/-- The plans of the alternatives of an expression. -/
def alternatives : Expression Atom → List Plan
  | .empty => [.row []]
  | .atom (.char s) => [ofSet s]
  | .atom (.assertion a) => [.assertion a]
  | .sequence x y => [(choose (alternatives x)).before (choose (alternatives y))]
  | .either x y => choose (alternatives x) :: alternatives y
  | .group true x => [.group (choose (alternatives x))]
  | .group false x => [choose (alternatives x)]
  | .repeated x least most eager => [(choose (alternatives x)).times least most eager]

/-- The plan of an expression. -/
def ofExpression (e : Expression Atom) : Plan :=
  choose (alternatives e)

end Plan

end RecordSchema.Pattern
