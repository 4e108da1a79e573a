import RecordSchema.Kind
import RecordSchema.Number.Text
import RecordSchema.Pattern.Basic

/-!
# Rules and schemas

A rule says what values a property takes.  A schema is an ordered list of named rules and shapes an
object; the rule of an object, or of a list of objects, may hold a schema of its own.

* `Settings`: what a rule says but for the schema inside it.
* `Rule`, `Schema`: the two types, each of which may hold the other.
* `Schema.get?`, `Schema.names`: look-up and the declared names.
-/

namespace RecordSchema

/-- The settings of a rule. -/
structure Settings where
  kind : Kind := .any
  required : Bool := false
  fallback : Option Json := none
  enumeration : Option (List Json) := none
  least : Option Bound := none
  most : Option Bound := none
  earliest : Option Temporal := none
  latest : Option Temporal := none
  pattern : Option Pattern := none
  memberKind : Option Kind := none
  memberLeast : Option Bound := none
  memberMost : Option Bound := none

mutual

/-- What values a property takes. -/
structure Rule where
  settings : Settings
  nested : Option Schema

/-- An ordered list of named rules. -/
structure Schema where
  properties : List (String × Rule)

end

namespace Rule

/-- The rule that takes every value. -/
def unrestricted : Rule :=
  ⟨{}, none⟩

end Rule

namespace Schema

/-- The declared names, in order. -/
def names (s : Schema) : List String :=
  s.properties.map Prod.fst

/-- The rule that is declared first under a name. -/
def get? (s : Schema) (name : String) : Option Rule :=
  s.properties.lookup name

/-- Whether a name is declared. -/
def contains (s : Schema) (name : String) : Bool :=
  (s.get? name).isSome

/-- The number of declared properties. -/
def size (s : Schema) : Nat :=
  s.properties.length

end Schema

end RecordSchema
