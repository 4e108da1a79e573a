/-!
# Paths

A path is the text by which a report names a place: property names are joined by points, and an
index stands in brackets.  Inside the library a place is a list of steps, and its path is written
only when it is reported.

* `Path.child`, `Path.index`: a path with one more step.
* `Path.nest`: a path inside another one.
* `Location.pathFrom`: the path of a list of steps.
-/

namespace RecordSchema

/-- One step into a value. -/
inductive PathStep where
  | property (name : String)
  | item (index : Nat)
deriving DecidableEq, Repr

/-- A place inside a value, from the outside in. -/
abbrev Location := List PathStep

namespace Path

/-- A path with a name at its end. -/
def child (path name : String) : String :=
  if path.isEmpty then name else path ++ "." ++ name

/-- A path with an index at its end. -/
def index (path : String) (i : Nat) : String :=
  path ++ "[" ++ toString i ++ "]"

/-- A path inside another one.  No point stands before an index. -/
def nest (outer inner : String) : String :=
  if inner.isEmpty then outer
  else if outer.isEmpty || inner.toList.head? == some '[' then outer ++ inner
  else outer ++ "." ++ inner

end Path

/-- A path with one more step. -/
def PathStep.extend (path : String) : PathStep → String
  | .property name => Path.child path name
  | .item i => Path.index path i

/-- The path of a place, where the value itself has a given path. -/
def Location.pathFrom (root : String) (location : Location) : String :=
  location.foldl PathStep.extend root

end RecordSchema
