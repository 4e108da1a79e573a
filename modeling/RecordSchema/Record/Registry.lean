import RecordSchema.Description
import RecordSchema.Record.Basic

/-!
# Record types and their registry

A record type is made of a name and a schema, which may be described, made already, or shared with
others.  A registry keeps record types under their names; a name is registered at most once.

* `SchemaSource`: where the schema of a type comes from.
* `createType`: a record type.
* `TypeRegistry.register`, `TypeRegistry.get?`, `TypeRegistry.names`: the registry.
-/

namespace RecordSchema

/-- Where the schema of a record type comes from. -/
inductive SchemaSource where
  | described (description : Json)
  | made (schema : Schema)
  | shared (shape : SharedSchema)

/-- The shared schema of a source; one that is not shared yet takes a given identity. -/
def SchemaSource.shape (identity : Nat) : SchemaSource → Except Error SharedSchema
  | .described description => (Schema.ofDescription description).map (⟨identity, ·⟩)
  | .made schema => .ok ⟨identity, schema⟩
  | .shared shape => .ok shape

/-- The record type of a name and a schema. -/
def createType (identity : Nat) (name : String) (source : SchemaSource) :
    Except Error RecordType :=
  if name.isEmpty then .error (.invalidArgument .emptyTypeName)
  else (source.shape identity).map (⟨name, ·⟩)

/-- Record types by name, in the order of their registration. -/
structure TypeRegistry where
  types : List RecordType := []

namespace TypeRegistry

/-- The type that is registered under a name. -/
def get? (registry : TypeRegistry) (name : String) : Option RecordType :=
  registry.types.find? (·.name == name)

/-- The registry with a new type, and that type.  A name that is taken is refused before anything
else is looked at. -/
def register (registry : TypeRegistry) (identity : Nat) (name : String) (source : SchemaSource) :
    Except Error (RecordType × TypeRegistry) :=
  if (registry.get? name).isSome then .error (.invalidArgument (.takenTypeName name))
  else (createType identity name source).map fun type => (type, ⟨registry.types ++ [type]⟩)

/-- The registered names in increasing order. -/
def names (registry : TypeRegistry) : List String :=
  (registry.types.map RecordType.name).mergeSort fun a b => decide (a ≤ b)

/-- The number of registered types. -/
def size (registry : TypeRegistry) : Nat :=
  registry.types.length

/-- Whether no type is registered. -/
def isEmpty (registry : TypeRegistry) : Bool :=
  registry.types.isEmpty

/-- A record without attributes of a registered type. -/
def createRecord (registry : TypeRegistry) (name : String) : Except Error Record :=
  match registry.get? name with
  | some type => .ok type.newRecord
  | none => .error (.invalidArgument (.unknownType name))

end TypeRegistry

end RecordSchema
