import RecordSchema.Pattern.ProgramSize
import RecordSchema.Pattern.Reader
import RecordSchema.Pattern.Search

/-!
# Patterns

A pattern is a text that was read as a regular expression.

* `Pattern.ofText?`: the pattern of a text, if it can be read and is not too large.
* `Pattern.matchesFront`: whether a match begins at the front of a text.
-/

namespace RecordSchema

/-- A regular expression together with the text that it was read from. -/
structure Pattern where
  source : String
  expression : Pattern.Expression Pattern.Atom
deriving DecidableEq, Repr

namespace Pattern

/-- The pattern of a text. -/
def ofText? (source : String) : Option Pattern :=
  match readExpression? source with
  | some e => if fits e then some ⟨source, e⟩ else none
  | none => none

/-- Whether a match of the pattern begins at the front of a text. -/
def matchesStart (p : Pattern) (text : String) : Bool :=
  matchesFront p.expression text.toList

end Pattern

end RecordSchema
