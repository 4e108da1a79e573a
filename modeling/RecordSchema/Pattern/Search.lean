import RecordSchema.Pattern.Expression

/-!
# Finding matches

The matcher works on sets of places.  A set is a number whose binary digit `i` tells whether place
`i` belongs to it.  From the places where a match may begin, `ends` computes the places where it may
end; a repetition is followed until the set no longer changes.

* `placesWhere`: the places of a text with a property.
* `Step.ends`, `ends`: from begins to ends.
* `matchesFront`: whether some match begins at the front of a text.
-/

namespace RecordSchema.Pattern

open Unicode

/-- A set of places: digit `i` of the number stands for place `i`. -/
abbrev Places := Nat

/-- A move between places: over a character that begins at one of the places, or none at all. -/
inductive Step where
  | take (places : Places)
  | stay (places : Places)
deriving Repr, DecidableEq

/-- The places of a text that have a property; `before` is what precedes the text. -/
def placesWhere (p : Place → Bool) (before : Option Char) : List Char → Places
  | [] => (p ⟨before, none⟩).toNat
  | c :: rest => (p ⟨before, some c⟩).toNat + 2 * placesWhere p (some c) rest

/-- The move that an atom makes in a text. -/
def Atom.step (text : List Char) : Atom → Step
  | .char set => .take (placesWhere (fun p => p.after.any set.has) none text)
  | .assertion a => .stay (placesWhere a.holdsAt none text)

/-- The ends of a move. -/
def Step.ends (begins : Places) : Step → Places
  | .take places => (begins &&& places) <<< 1
  | .stay places => begins &&& places

/-- Repeats a function a number of times; once the value stays the same the rest is left out. -/
def settle (f : Places → Places) : Nat → Places → Places
  | 0, s => s
  | n + 1, s =>
    let t := f s
    if t = s then s else settle f n t

/-- The places where a match may end; `limit` is the number of places of the text. -/
def ends (limit : Nat) : Expression Step → Places → Places
  | .empty, begins => begins
  | .atom step, begins => step.ends begins
  | .sequence x y, begins => ends limit y (ends limit x begins)
  | .either x y, begins => ends limit x begins ||| ends limit y begins
  | .group _ x, begins => ends limit x begins
  | .repeated x least most _, begins =>
    let required := settle (ends limit x) least begins
    let optional := match most with
      | some most => most - least
      | none => limit
    settle (fun s => s ||| ends limit x s) optional required

/-- Whether some match begins at the front of a text. -/
def matchesFront (e : Expression Atom) (text : List Char) : Bool :=
  ends (text.length + 1) (e.map (Atom.step text)) 1 != 0

end RecordSchema.Pattern
