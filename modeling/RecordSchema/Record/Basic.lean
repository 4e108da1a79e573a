import RecordSchema.Error
import RecordSchema.Rule.Basic

/-!
# Records

A record holds attributes under names, in the order in which they were first set.  A record that was
made by a record type is bound to the schema of that type; nothing is checked while attributes are
set or removed.

* `SharedSchema`: a schema with an identity, so that sharing can be told from equality.
* `RecordType`: a name bound to a shared schema.
* `Record`: attributes, and the type that made them a record, if any.
-/

namespace RecordSchema

/-- A schema that is shared; two shared schemas are the same if their identities are. -/
structure SharedSchema where
  identity : Nat
  schema : Schema

/-- A record type. -/
structure RecordType where
  name : String
  shape : SharedSchema

/-- Attributes, bound to the record type that made the record.  The name of the type and its schema
are given to a record together or not at all, so they are one field, and that a record has a type
name just if it is bound holds by this type. -/
structure Record where
  type : Option RecordType := none
  attributes : Fields := []

namespace RecordType

/-- The declared names. -/
def propertyNames (t : RecordType) : List String :=
  t.shape.schema.names

/-- A record of the type with given attributes. -/
def recordFrom (t : RecordType) (attributes : Fields) : Record :=
  ⟨some t, attributes⟩

/-- A record of the type without attributes. -/
def newRecord (t : RecordType) : Record :=
  t.recordFrom []

/-- A record of the type with the fields of an object. -/
def recordFromValue (t : RecordType) : Json → Except Error Record
  | .obj fields => .ok (t.recordFrom fields)
  | _ => .error (.invalidArgument (.recordForm t.name))

end RecordType

namespace Record

/-- A record that is bound to no schema. -/
def ofAttributes (attributes : Fields) : Record :=
  ⟨none, attributes⟩

/-- The name of the type of a record. -/
def typeName? (r : Record) : Option String :=
  r.type.map RecordType.name

/-- The shared schema that a record is bound to. -/
def shape? (r : Record) : Option SharedSchema :=
  r.type.map RecordType.shape

/-- The schema that a record is bound to. -/
def schema? (r : Record) : Option Schema :=
  r.shape?.map SharedSchema.schema

/-- Whether a record is bound to a schema. -/
def isBound (r : Record) : Bool :=
  r.shape?.isSome

/-- The number of attributes. -/
def size (r : Record) : Nat :=
  r.attributes.length

/-! ### Attributes -/

/-- The value of an attribute. -/
def get? (r : Record) (name : String) : Option Json :=
  r.attributes.get? name

/-- The value of an attribute, or what stands for it if it is not set. -/
def getD (r : Record) (name : String) (default : Json) : Json :=
  (r.get? name).getD default

/-- Whether an attribute is set. -/
def contains (r : Record) (name : String) : Bool :=
  (r.get? name).isSome

/-- The record with an attribute set. -/
def set (r : Record) (name : String) (value : Json) : Record :=
  { r with attributes := r.attributes.put name value }

/-- The record without an attribute. -/
def remove (r : Record) (name : String) : Record :=
  { r with attributes := r.attributes.remove name }

/-- Whether two records are bound to the same shared schema. -/
def sharesSchema (r other : Record) : Bool :=
  match r.shape?, other.shape? with
  | some s, some t => s.identity == t.identity
  | _, _ => false

end Record

end RecordSchema
